import DriveBridge.JsonText
import DriveBridge.Proofs.Text.Octets

namespace DriveBridge

namespace Text

def IsPrintable (t : Text) : Prop := ∀ c ∈ t, 0x20 ≤ c.val ∧ c.val ≤ 0x7E

instance (t : Text) : Decidable t.IsPrintable :=
  decidable_of_iff (t.all fun c => 0x20 ≤ c.val && c.val ≤ 0x7E) (by simp [IsPrintable])

namespace IsPrintable

variable {s t : Text} {c : CodePoint}

theorem nil : IsPrintable [] := by
  intro c hc
  cases hc

theorem append (hs : IsPrintable s) (ht : IsPrintable t) : IsPrintable (s ++ t) := by
  intro c hc
  rcases List.mem_append.mp hc with h | h
  · exact hs c h
  · exact ht c h

theorem cons (hc : 0x20 ≤ c.val ∧ c.val ≤ 0x7E) (ht : IsPrintable t) : IsPrintable (c :: t) := by
  intro d hd
  rcases List.mem_cons.mp hd with rfl | h
  · exact hc
  · exact ht d h

theorem singleton (hc : 0x20 ≤ c.val ∧ c.val ≤ 0x7E) : IsPrintable [c] := cons hc nil

theorem of_subset (ht : IsPrintable t) (h : s ⊆ t) : IsPrintable s := fun c hc => ht c (h hc)

theorem flatMap {α : Type} {xs : List α} {f : α → Text} (h : ∀ x ∈ xs, IsPrintable (f x)) :
    IsPrintable (xs.flatMap f) := by
  intro c hc
  obtain ⟨x, hx, hc⟩ := List.mem_flatMap.mp hc
  exact h x hx c hc

theorem intercalate (hs : IsPrintable s) {parts : List Text} (h : ∀ t ∈ parts, IsPrintable t) :
    IsPrintable (List.intercalate s parts) := by
  induction parts with
  | nil => exact nil
  | cons t parts ih =>
    rw [List.forall_mem_cons] at h
    cases parts with
    | nil => simpa using h.1
    | cons u parts =>
      rw [List.intercalate_cons_cons]
      exact (h.1.append hs).append (ih h.2)

theorem newline_not_mem (ht : IsPrintable t) : CodePoint.newline ∉ t := by
  intro h
  exact absurd (ht _ h).1 (by decide)

end IsPrintable

end Text

open Text

theorem Integer.isPrintable_digits (n : Nat) : IsPrintable (digits n) := by
  intro c hc
  have := val_of_mem_digits hc
  omega

theorem Integer.isPrintable_toText (n : Int) : IsPrintable (toText n) := by
  rw [toText]
  split
  · exact IsPrintable.append (by decide) (isPrintable_digits _)
  · exact isPrintable_digits _

theorem Hexadecimal.isPrintable_digits (width n : Nat) : IsPrintable (digits width n) := by
  induction width generalizing n with
  | zero => exact .nil
  | succ width ih =>
    have hd : ∀ k < 16, IsPrintable [CodePoint.ofChar (Nat.digitChar k)] := by decide
    exact (ih _).append (hd _ (Nat.mod_lt n (by decide)))

theorem Binary64.isPrintable_layout (d : Nat) (p : Int) : IsPrintable (layout d p) := by
  have hd := Integer.isPrintable_digits d
  have htake (n : Nat) := hd.of_subset (List.take_subset n _)
  have hdrop (n : Nat) := hd.of_subset (List.drop_subset n _)
  have hzeros (n : Nat) : IsPrintable (List.replicate n (CodePoint.ofChar '0')) := by
    intro c hc
    rw [List.eq_of_mem_replicate hc]
    decide
  simp only [layout]
  split
  · refine (((((htake 1).append ?_).append (hdrop 1)).append ?_).append ?_).append
      (Integer.isPrintable_digits _)
    · split <;> decide
    · split <;> decide
    · split <;> decide
  split
  · exact (IsPrintable.append (by decide) (hzeros _)).append hd
  split
  · exact (hd.append (hzeros _)).append (by decide)
  · exact ((htake _).append (by decide)).append (hdrop _)

theorem Binary64.isPrintable_toText (x : Binary64) : IsPrintable x.toText := by
  have hmagnitude (rank : Nat) : IsPrintable
      (if rank = 0 then "0.0" else layout (shortest rank).1 (shortest rank).2) := by
    split
    · decide
    · exact isPrintable_layout _ _
  cases x with
  | nan => decide
  | infinite negative => cases negative <;> decide
  | finite negative rank =>
    cases negative with
    | false => exact hmagnitude rank
    | true => exact IsPrintable.append (by decide) (hmagnitude rank)

namespace JsonText

theorem isPrintable_escape (c : CodePoint) : IsPrintable (escape c) := by
  have hunits : IsPrintable ((Utf16.units c).flatMap unitEscape) :=
    IsPrintable.flatMap fun u _ => IsPrintable.append (by decide)
      (Hexadecimal.isPrintable_digits 4 u.toNat)
  simp only [escape]
  split
  · rename_i hc
    rcases hc with rfl | rfl <;> decide
  iterate 5
    split
    · decide
  split
  · exact .singleton (by assumption)
  · exact hunits

theorem isPrintable_string (t : Text) : IsPrintable (string t) :=
  IsPrintable.append (IsPrintable.cons (by decide)
    (IsPrintable.flatMap fun c _ => isPrintable_escape c)) (by decide)

theorem isPrintable_float (x : Binary64) : IsPrintable (float x) := by
  cases x with
  | nan => decide
  | infinite negative => cases negative <;> decide
  | finite negative rank => exact Binary64.isPrintable_toText (.finite negative rank)

theorem isPrintable_bool (b : Bool) : IsPrintable (bool b) := by
  cases b <;> decide

theorem isPrintable_enclose {opening closing : CodePoint} {parts : List Text}
    (ho : IsPrintable [opening]) (hc : IsPrintable [closing]) (h : ∀ t ∈ parts, IsPrintable t) :
    IsPrintable (enclose opening closing parts) :=
  ho.append ((IsPrintable.intercalate (by decide) h).append hc)

mutual

theorem isPrintable_write : ∀ {v : Value} {t : Text}, write? v = some t → IsPrintable t
  | .list items, t, h | .tuple items, t, h => by
    rw [write?] at h
    obtain ⟨parts, hparts, rfl⟩ := Option.map_eq_some_iff.mp h
    exact isPrintable_enclose (by decide) (by decide) (isPrintable_writeItems hparts)
  | .table es, t, h => by
    rw [write?] at h
    obtain ⟨parts, hparts, rfl⟩ := Option.map_eq_some_iff.mp h
    exact isPrintable_enclose (by decide) (by decide) (isPrintable_writeMembers hparts)
  | .null, t, h => by
    obtain rfl := Option.some.inj h
    decide
  | .bool b, t, h => Option.some.inj h ▸ isPrintable_bool b
  | .int n, t, h => Option.some.inj h ▸ Integer.isPrintable_toText n
  | .float x, t, h => Option.some.inj h ▸ isPrintable_float x
  | .text _, t, h | .octets _, t, h | .location _, t, h | .client _, t, h | .host _, t, h
  | .unit _, t, h => Option.some.inj h ▸ isPrintable_string _

theorem isPrintable_writeItems : ∀ {items : List Value} {parts : List Text},
    writeItems? items = some parts → ∀ t ∈ parts, IsPrintable t
  | [], parts, h => by
    obtain rfl := Option.some.inj h
    simp
  | v :: items, parts, h => by
    simp only [writeItems?, Option.bind_eq_bind, Option.bind_eq_some_iff, Option.pure_def,
      Option.some.injEq] at h
    obtain ⟨t, ht, rest, hrest, rfl⟩ := h
    exact List.forall_mem_cons.mpr ⟨isPrintable_write ht, isPrintable_writeItems hrest⟩

theorem isPrintable_writeMembers : ∀ {es : List (Value × Value)} {parts : List Text},
    writeMembers? es = some parts → ∀ t ∈ parts, IsPrintable t
  | [], parts, h => by
    obtain rfl := Option.some.inj h
    simp
  | (k, v) :: es, parts, h => by
    simp only [writeMembers?, Option.bind_eq_bind, Option.bind_eq_some_iff, Option.pure_def,
      Option.some.injEq] at h
    obtain ⟨name, _, t, ht, rest, hrest, rfl⟩ := h
    have hmember := (isPrintable_string name).append
      (IsPrintable.cons (c := 0x3A) (by decide) (isPrintable_write ht))
    exact List.forall_mem_cons.mpr ⟨hmember, isPrintable_writeMembers hrest⟩

end

end JsonText

end DriveBridge
