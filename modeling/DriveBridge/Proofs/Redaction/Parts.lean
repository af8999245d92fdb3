import Mathlib.Data.List.Forall2
import DriveBridge.Proofs.Text.Pieces
import DriveBridge.Redaction

namespace DriveBridge

open CodePoint

theorem exists_getElem?_of_forall₂ {α β : Type} {R : α → β → Prop} {xs : List α} {ys : List β}
    (h : List.Forall₂ R xs ys) {i : Nat} {x : α} (hi : xs[i]? = some x) :
    ∃ y, ys[i]? = some y ∧ R x y := by
  induction h generalizing i with
  | nil => cases hi
  | cons hxy _ ih =>
    cases i with
    | zero =>
      obtain rfl := Option.some.inj hi
      exact ⟨_, rfl, hxy⟩
    | succ i => exact ih hi

namespace Redactor

variable {r : Redactor}

theorem redactPath_of_separator {c : CodePoint} {last : Text} (hr : r.enabled.isTrue) (s : Text)
    (hc : isSeparator c) (hl : last.any isSeparator = false) :
    r.redactPath (s ++ c :: last) = mark ++ slash :: last := by
  have hs : (s ++ c :: last).any isSeparator = true := by
    rw [List.any_append, List.any_cons, hc, Bool.true_or, Bool.or_true]
  have hl : last.all (!isSeparator ·) := by
    rw [← List.not_any_eq_all_not, hl]
    rfl
  rw [redactPath, hr, hs, Text.takeBackWhile_append s (by rw [hc]; rfl) hl]
  rfl

theorem redactPath_eq_self {t : Text} (h : r.enabled.isTrue = false ∨ t.any isSeparator = false) :
    r.redactPath t = t := by
  rw [redactPath]
  rcases h with h | h <;> simp [h]

theorem redactPath_eq (hr : r.enabled.isTrue) (t : Text) :
    r.redactPath t = if t.any isSeparator then mark ++ slash :: t.lastPart else t.lastPart := by
  rw [redactPath, hr, Bool.true_and]
  split
  · rfl
  · rename_i hnone
    symm
    rw [Text.lastPart, Text.takeBackWhile_eq_self_iff, ← List.not_any_eq_all_not]
    simpa using hnone

def redactItem (r : Redactor) : Value → Option Value
  | .table es => (r.redactEntries es).map .table
  | .text t => some (.text (r.redactPath t))
  | v => some v

theorem redactItems_cons (v : Value) (items : List Value) :
    r.redactItems (v :: items) = (r.redactItem v).bind fun w => (r.redactItems items).map (w :: ·) := by
  cases v
  case table es =>
    rw [redactItems, redactItem]
    cases r.redactEntries es <;> cases r.redactItems items <;> rfl
  all_goals
    rw [redactItems, redactItem]
    · rfl
    all_goals
      intros
      contradiction

def shown (r : Redactor) (k v : Value) : Option Value :=
  (r.isSensitive? k).bind fun sensitive => if sensitive then some (.text mark) else r.redactValue v

theorem redactEntries_cons (k v : Value) (es : List (Value × Value)) :
    r.redactEntries ((k, v) :: es) =
      (r.shown k v).bind fun w => (r.redactEntries es).map ((k, w) :: ·) := by
  rw [redactEntries, shown]
  cases r.isSensitive? k with
  | none => rfl
  | some sensitive =>
    cases sensitive
    · cases r.redactValue v <;> cases r.redactEntries es <;> rfl
    · cases r.redactEntries es <;> rfl

theorem shown_of_sensitive {k : Text} (hk : Text.lower k ∈ r.names) (v : Value) :
    r.shown (.text k) v = some (.text mark) := by
  rw [shown, isSensitive?, decide_eq_true hk]
  rfl

theorem shown_of_not_sensitive {k : Text} (hk : Text.lower k ∉ r.names) (v : Value) :
    r.shown (.text k) v = r.redactValue v := by
  rw [shown, isSensitive?, decide_eq_false hk]
  rfl

theorem redactItems_eq_some_iff {items ws : List Value} : r.redactItems items = some ws ↔
    List.Forall₂ (fun v w => r.redactItem v = some w) items ws := by
  induction items generalizing ws with
  | nil => rw [redactItems, Option.some.injEq, List.forall₂_nil_left_iff, eq_comm]
  | cons v items ih =>
    rw [redactItems_cons, List.forall₂_cons_left_iff, Option.bind_eq_some_iff]
    simp only [Option.map_eq_some_iff, ih]
    constructor
    · rintro ⟨w, hw, zs, hzs, rfl⟩
      exact ⟨w, zs, hw, hzs, rfl⟩
    · rintro ⟨w, zs, hw, hzs, rfl⟩
      exact ⟨w, hw, zs, hzs, rfl⟩

theorem redactEntries_eq_some_iff {es ws : List (Value × Value)} : r.redactEntries es = some ws ↔
    List.Forall₂ (fun e f => f.1 = e.1 ∧ r.shown e.1 e.2 = some f.2) es ws := by
  induction es generalizing ws with
  | nil => rw [redactEntries, Option.some.injEq, List.forall₂_nil_left_iff, eq_comm]
  | cons e es ih =>
    rw [redactEntries_cons, List.forall₂_cons_left_iff, Option.bind_eq_some_iff]
    simp only [Option.map_eq_some_iff, ih]
    constructor
    · rintro ⟨w, hw, zs, hzs, rfl⟩
      exact ⟨(e.1, w), zs, ⟨rfl, hw⟩, hzs, rfl⟩
    · rintro ⟨⟨k, w⟩, zs, ⟨rfl, hw⟩, hzs, rfl⟩
      exact ⟨w, hw, zs, hzs, rfl⟩

end Redactor

namespace Value

mutual

def hasTextKeys : Value → Bool
  | list items => itemsHaveTextKeys items
  | tuple items => itemsHaveTextKeys items
  | table es => entriesHaveTextKeys es
  | _ => true

def itemsHaveTextKeys : List Value → Bool
  | [] => true
  | v :: vs => hasTextKeys v && itemsHaveTextKeys vs

def entriesHaveTextKeys : List (Value × Value) → Bool
  | [] => true
  | (text _, v) :: es => hasTextKeys v && entriesHaveTextKeys es
  | _ :: _ => false

end

theorem exists_of_entriesHaveTextKeys {e : Value × Value} {es : List (Value × Value)}
    (h : entriesHaveTextKeys (e :: es)) :
    ∃ t v, e = (text t, v) ∧ v.hasTextKeys = true ∧ entriesHaveTextKeys es = true := by
  obtain ⟨k, v⟩ := e
  cases k
  case text t =>
    rw [entriesHaveTextKeys, Bool.and_eq_true] at h
    exact ⟨t, v, rfl, h⟩
  all_goals cases h

theorem forall_of_entriesHaveTextKeys {es : List (Value × Value)} (h : entriesHaveTextKeys es) :
    ∀ e ∈ es, (∃ t, e.1 = text t) ∧ e.2.hasTextKeys := by
  induction es with
  | nil => exact List.forall_mem_nil _
  | cons e es ih =>
    obtain ⟨t, v, rfl, hv, hes⟩ := exists_of_entriesHaveTextKeys h
    exact List.forall_mem_cons.mpr ⟨⟨⟨t, rfl⟩, hv⟩, ih hes⟩

theorem forall_of_itemsHaveTextKeys {items : List Value} (h : itemsHaveTextKeys items) :
    ∀ v ∈ items, v.hasTextKeys := by
  induction items with
  | nil => exact List.forall_mem_nil _
  | cons v items ih =>
    rw [itemsHaveTextKeys, Bool.and_eq_true] at h
    exact List.forall_mem_cons.mpr ⟨h.1, ih h.2⟩

end Value

namespace Redactor

variable (r : Redactor)

mutual

theorem redactValue_isSome : ∀ {v : Value}, v.hasTextKeys → (r.redactValue v).isSome
  | .table es, h => by
    rw [redactValue, Option.isSome_map]
    exact redactEntries_isSome h
  | .list items, h => by
    rw [redactValue, Option.isSome_map]
    exact redactItems_isSome h
  | .tuple _, _ | .text _, _ | .location _, _ | .client _, _ | .host _, _ => rfl
  | .null, _ | .bool _, _ | .int _, _ | .float _, _ | .octets _, _ | .unit _, _ => rfl

theorem redactItem_isSome : ∀ {v : Value}, v.hasTextKeys → (r.redactItem v).isSome
  | .table es, h => by
    rw [redactItem, Option.isSome_map]
    exact redactEntries_isSome h
  | .list _, _ | .tuple _, _ | .text _, _ | .location _, _ | .client _, _ | .host _, _ => rfl
  | .null, _ | .bool _, _ | .int _, _ | .float _, _ | .octets _, _ | .unit _, _ => rfl

theorem redactItems_isSome : ∀ {items : List Value}, Value.itemsHaveTextKeys items →
    (r.redactItems items).isSome
  | [], _ => rfl
  | v :: items, h => by
    rw [Value.itemsHaveTextKeys, Bool.and_eq_true] at h
    obtain ⟨w, hw⟩ := Option.isSome_iff_exists.mp (redactItem_isSome h.1)
    rw [redactItems_cons, hw, Option.bind_some, Option.isSome_map]
    exact redactItems_isSome h.2

theorem redactEntries_isSome : ∀ {es : List (Value × Value)}, Value.entriesHaveTextKeys es →
    (r.redactEntries es).isSome
  | [], _ => rfl
  | (k, v) :: es, h => by
    obtain ⟨t, v, he, hv, hes⟩ := Value.exists_of_entriesHaveTextKeys h
    cases he
    have hs : (r.shown (.text t) v).isSome := by
      rw [shown, isSensitive?, Option.bind_some]
      split
      · rfl
      · exact redactValue_isSome hv
    obtain ⟨w, hw⟩ := Option.isSome_iff_exists.mp hs
    rw [redactEntries_cons, hw, Option.bind_some, Option.isSome_map]
    exact redactEntries_isSome hes

end

end Redactor

end DriveBridge
