import DriveBridge.Proofs.Json.RoundTrip
import DriveBridge.Proofs.Redaction.Equality

namespace DriveBridge

open Value

namespace Redactor

variable {r : Redactor}

theorem isUnpaired_redactPath {t : Text} (h : t.isUnpaired) : (r.redactPath t).isUnpaired := by
  rw [redactPath]
  split
  · have hprintable : Text.IsPrintable (mark ++ [CodePoint.slash]) := by decide
    rw [← List.singleton_append, ← List.append_assoc]
    apply Text.isUnpaired_append hprintable.isHigh_eq_false
    apply Text.isUnpaired_suffix (s := (t.reverse.dropWhile (!CodePoint.isSeparator ·)).reverse)
    rw [Text.takeBackWhile, ← List.reverse_append, List.takeWhile_append_dropWhile,
      List.reverse_reverse]
    exact h
  · exact h

mutual

theorem isReadable_redactValue : ∀ {v w : Value}, r.redactValue v = some w → v.isReadable →
    w.isReadable
  | .table _, w, h, hv => by
    obtain ⟨zs, hzs, rfl⟩ := Option.map_eq_some_iff.mp h
    exact isReadable_redactEntries hzs hv
  | .list _, w, h, hv => by
    obtain ⟨zs, hzs, rfl⟩ := Option.map_eq_some_iff.mp h
    exact isReadable_redactItems hzs hv
  | .text _, w, h, hv => by
    obtain rfl := Option.some.inj h
    exact isUnpaired_redactPath hv
  | .tuple _, w, h, hv | .null, w, h, hv | .bool _, w, h, hv | .int _, w, h, hv => by
    obtain rfl := Option.some.inj h
    exact hv

theorem isReadable_redactItem : ∀ {v w : Value}, r.redactItem v = some w → v.isReadable →
    w.isReadable
  | .table _, w, h, hv => by
    obtain ⟨zs, hzs, rfl⟩ := Option.map_eq_some_iff.mp h
    exact isReadable_redactEntries hzs hv
  | .text _, w, h, hv => by
    obtain rfl := Option.some.inj h
    exact isUnpaired_redactPath hv
  | .list _, w, h, hv | .tuple _, w, h, hv | .null, w, h, hv | .bool _, w, h, hv
  | .int _, w, h, hv => by
    obtain rfl := Option.some.inj h
    exact hv

theorem isReadable_redactItems : ∀ {items ws : List Value}, r.redactItems items = some ws →
    itemsAreReadable items → itemsAreReadable ws
  | [], ws, h, _ => by
    obtain rfl := Option.some.inj h
    rfl
  | v :: items, ws, h, hv => by
    rw [itemsAreReadable, Bool.and_eq_true] at hv
    obtain ⟨w, zs, hw, hzs, rfl⟩ := redactItems_eq_cons h
    rw [itemsAreReadable, isReadable_redactItem hw hv.1, isReadable_redactItems hzs hv.2]
    rfl

theorem isReadable_redactEntries : ∀ {es ws : List (Value × Value)}, r.redactEntries es = some ws →
    entriesAreReadable es → entriesAreReadable ws
  | [], ws, h, _ => by
    obtain rfl := Option.some.inj h
    rfl
  | (k, v) :: es, ws, h, hes => by
    obtain ⟨hkey, hv, hes⟩ := entriesAreReadable_cons.mp hes
    obtain ⟨w, zs, hw, hzs, rfl⟩ := redactEntries_eq_cons h
    refine entriesAreReadable_cons.mpr ⟨hkey, ?_, isReadable_redactEntries hzs hes⟩
    obtain ⟨sensitive, _, hw⟩ := Option.bind_eq_some_iff.mp hw
    cases sensitive with
    | true =>
      obtain rfl := Option.some.inj hw
      rfl
    | false => exact isReadable_redactValue hw hv

end

end Redactor

end DriveBridge
