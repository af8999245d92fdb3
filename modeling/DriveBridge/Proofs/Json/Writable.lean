import DriveBridge.JsonText

namespace DriveBridge

namespace Value

def isScalar : Value → Bool
  | .null | .bool _ | .int _ | .float _ | .text _ => true
  | _ => false

inductive Holds : Value → List (Value × Value) → Prop
  | itself (es : List (Value × Value)) : Holds (.table es) es
  | inList {items : List Value} {v : Value} {es : List (Value × Value)} (hm : v ∈ items)
      (h : Holds v es) : Holds (.list items) es
  | inTuple {items : List Value} {v : Value} {es : List (Value × Value)} (hm : v ∈ items)
      (h : Holds v es) : Holds (.tuple items) es
  | inTable {fs : List (Value × Value)} {k v : Value} {es : List (Value × Value)}
      (hm : (k, v) ∈ fs) (h : Holds v es) : Holds (.table fs) es

end Value

open Value

namespace JsonText

theorem isSome_name? (k : Value) : (name? k).isSome = k.isScalar := by
  cases k <;> rfl

theorem isSome_writeItems?_iff {items : List Value} :
    (writeItems? items).isSome ↔ ∀ v ∈ items, (write? v).isSome := by
  induction items with
  | nil =>
    rw [writeItems?]
    exact iff_of_true rfl (List.forall_mem_nil _)
  | cons v items ih =>
    rw [List.forall_mem_cons, ← ih, writeItems?]
    cases write? v with
    | none => simp
    | some t => cases writeItems? items <;> simp

theorem isSome_writeMembers?_iff {es : List (Value × Value)} :
    (writeMembers? es).isSome ↔ ∀ e ∈ es, e.1.isScalar ∧ (write? e.2).isSome := by
  induction es with
  | nil =>
    rw [writeMembers?]
    exact iff_of_true rfl (List.forall_mem_nil _)
  | cons e es ih =>
    obtain ⟨k, v⟩ := e
    rw [List.forall_mem_cons, ← ih, ← isSome_name?, writeMembers?]
    cases name? k with
    | none => simp
    | some name =>
      cases write? v with
      | none => simp
      | some t => cases writeMembers? es <;> simp

theorem isSome_writeMembers?_of_holds {v : Value} {es : List (Value × Value)} (hes : v.Holds es)
    (h : (write? v).isSome) : (writeMembers? es).isSome := by
  induction hes with
  | itself =>
    rwa [write?, Option.isSome_map] at h
  | inList hm _ ih | inTuple hm _ ih =>
    rw [write?, Option.isSome_map, isSome_writeItems?_iff] at h
    exact ih (h _ hm)
  | inTable hm _ ih =>
    rw [write?, Option.isSome_map, isSome_writeMembers?_iff] at h
    exact ih (h _ hm).2

theorem isSome_write? : ∀ {v : Value}, (∀ es, v.Holds es → ∀ e ∈ es, e.1.isScalar) →
    (write? v).isSome
  | .list items, h => by
    rw [write?, Option.isSome_map, isSome_writeItems?_iff]
    intro v hv
    have := List.sizeOf_lt_of_mem hv
    exact isSome_write? fun es hes => h es (.inList hv hes)
  | .tuple items, h => by
    rw [write?, Option.isSome_map, isSome_writeItems?_iff]
    intro v hv
    have := List.sizeOf_lt_of_mem hv
    exact isSome_write? fun es hes => h es (.inTuple hv hes)
  | .table fs, h => by
    rw [write?, Option.isSome_map, isSome_writeMembers?_iff]
    rintro ⟨k, v⟩ hv
    have := List.sizeOf_lt_of_mem hv
    exact ⟨h fs (.itself fs) _ hv, isSome_write? fun es hes => h es (.inTable hv hes)⟩
  | .null, _ | .bool _, _ | .int _, _ | .float _, _ | .text _, _ | .octets _, _ | .location _, _
  | .client _, _ | .host _, _ | .unit _, _ => rfl
termination_by v => sizeOf v
decreasing_by all_goals simp_all; omega

theorem write?_isSome_iff (v : Value) :
    (write? v).isSome ↔ ∀ es, v.Holds es → ∀ e ∈ es, e.1.isScalar := by
  constructor
  · intro h es hes e he
    exact (isSome_writeMembers?_iff.mp (isSome_writeMembers?_of_holds hes h) e he).1
  · exact isSome_write?

theorem isSome_write?_of_scalars {es : List (Value × Value)}
    (h : ∀ e ∈ es, e.1.isScalar ∧ e.2.isScalar) : (write? (.table es)).isSome := by
  rw [write?, Option.isSome_map, isSome_writeMembers?_iff]
  rintro ⟨k, v⟩ he
  obtain ⟨hk, hv⟩ := h _ he
  refine ⟨hk, ?_⟩
  cases v <;> first | rfl | cases hv

end JsonText

end DriveBridge
