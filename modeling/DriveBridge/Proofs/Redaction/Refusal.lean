import DriveBridge.Proofs.Redaction.Coverage

namespace DriveBridge

def Value.isNameLike : Value → Bool
  | .text _ => true
  | .octets _ => true
  | _ => false

namespace Redactor

inductive Opens : Value → List (Value × Value) → Prop
  | table (es : List (Value × Value)) : Opens (.table es) es
  | item {items : List Value} {es : List (Value × Value)} (h : .table es ∈ items) :
      Opens (.list items) es

inductive ComesTo (r : Redactor) : List (Value × Value) → List (Value × Value) → Prop
  | here (es : List (Value × Value)) : ComesTo r es es
  | onward {es fs gs : List (Value × Value)} {k v : Value} (hk : r.hides k = false)
      (hm : (k, v) ∈ es) (ho : Opens v fs) (h : ComesTo r fs gs) : ComesTo r es gs

variable {r : Redactor}

theorem isSome_isSensitive? (k : Value) : (r.isSensitive? k).isSome = k.isNameLike := by
  cases k <;> rfl

theorem isSome_redactEntries_cons (k v : Value) (es : List (Value × Value)) :
    (r.redactEntries ((k, v) :: es)).isSome =
      (k.isNameLike && (r.hides k || (r.redactValue v).isSome) && (r.redactEntries es).isSome) := by
  rw [redactEntries_cons, ← isSome_isSensitive? (r := r)]
  cases hk : r.isSensitive? k with
  | none =>
    rw [shown, hk]
    rfl
  | some sensitive =>
    rw [shown_eq hk]
    cases r.hides k with
    | true => rw [if_pos rfl, Option.bind_some, Option.isSome_map]; rfl
    | false =>
      rw [if_neg Bool.false_ne_true]
      cases r.redactValue v with
      | none => rfl
      | some w => rw [Option.bind_some, Option.isSome_map]; rfl

theorem isSome_redactItems_cons (v : Value) (items : List Value) :
    (r.redactItems (v :: items)).isSome =
      ((r.redactItem v).isSome && (r.redactItems items).isSome) := by
  rw [redactItems_cons]
  cases r.redactItem v with
  | none => rfl
  | some w => rw [Option.bind_some, Option.isSome_map]; rfl

theorem isSome_redactEntries_iff {es : List (Value × Value)} :
    (r.redactEntries es).isSome ↔
      ∀ e ∈ es, e.1.isNameLike ∧ (r.hides e.1 = false → (r.redactValue e.2).isSome) := by
  induction es with
  | nil =>
    rw [redactEntries]
    exact iff_of_true rfl (List.forall_mem_nil _)
  | cons e es ih =>
    obtain ⟨k, v⟩ := e
    rw [isSome_redactEntries_cons, List.forall_mem_cons, Bool.and_eq_true, Bool.and_eq_true, ih,
      Bool.or_eq_true]
    cases r.hides k <;> simp

theorem isSome_redactItems_iff {items : List Value} :
    (r.redactItems items).isSome ↔ ∀ v ∈ items, (r.redactItem v).isSome := by
  induction items with
  | nil =>
    rw [redactItems]
    exact iff_of_true rfl (List.forall_mem_nil _)
  | cons v items ih =>
    rw [isSome_redactItems_cons, List.forall_mem_cons, Bool.and_eq_true, ih]

theorem isSome_redactItem_iff (v : Value) :
    (r.redactItem v).isSome ↔ ∀ es, v = .table es → (r.redactEntries es).isSome := by
  cases v
  case table es => simp [redactItem]
  all_goals simp [redactItem]

theorem isSome_redactValue_iff (v : Value) :
    (r.redactValue v).isSome ↔ ∀ es, Opens v es → (r.redactEntries es).isSome := by
  cases v
  case table es =>
    rw [redactValue, Option.isSome_map]
    constructor
    · rintro h _ ⟨⟩
      exact h
    · intro h
      exact h es (.table es)
  case list items =>
    rw [redactValue, Option.isSome_map, isSome_redactItems_iff]
    constructor
    · rintro h es ⟨⟩
      exact (isSome_redactItem_iff _).mp (h _ (by assumption)) es rfl
    · intro h v hv
      rw [isSome_redactItem_iff]
      rintro es rfl
      exact h es (.item hv)
  all_goals
    refine iff_of_true rfl ?_
    rintro es ⟨⟩

theorem isSome_redactEntries_of_comesTo {es fs : List (Value × Value)} (hr : r.ComesTo es fs)
    (h : (r.redactEntries es).isSome) : (r.redactEntries fs).isSome := by
  induction hr with
  | here => exact h
  | onward hk hm ho _ ih =>
    have hv := (isSome_redactEntries_iff.mp h _ hm).2 hk
    exact ih ((isSome_redactValue_iff _).mp hv _ ho)

theorem sizeOf_lt_of_opens {k v : Value} {es fs : List (Value × Value)} (hm : (k, v) ∈ es)
    (ho : Opens v fs) : sizeOf fs < sizeOf es := by
  have hes := List.sizeOf_lt_of_mem hm
  rw [Prod.mk.sizeOf_spec] at hes
  cases ho with
  | table =>
    rw [Value.table.sizeOf_spec] at hes
    omega
  | item h =>
    have hitems := List.sizeOf_lt_of_mem h
    rw [Value.table.sizeOf_spec] at hitems
    rw [Value.list.sizeOf_spec] at hes
    omega

theorem redactEntries_isSome_iff (es : List (Value × Value)) :
    (r.redactEntries es).isSome ↔ ∀ fs, r.ComesTo es fs → ∀ e ∈ fs, e.1.isNameLike := by
  constructor
  · intro h fs hr e he
    exact (isSome_redactEntries_iff.mp (isSome_redactEntries_of_comesTo hr h) e he).1
  · intro h
    rw [isSome_redactEntries_iff]
    rintro ⟨k, v⟩ hm
    refine ⟨h es (.here es) _ hm, ?_⟩
    intro hk
    rw [isSome_redactValue_iff]
    intro fs ho
    have := sizeOf_lt_of_opens hm ho
    rw [redactEntries_isSome_iff fs]
    intro gs hr
    exact h gs (.onward hk hm ho hr)
termination_by sizeOf es

end Redactor

end DriveBridge
