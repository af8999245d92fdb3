import DriveBridge.Proofs.Redaction.Parts
import DriveBridge.Proofs.Value.Equality

/-!
Redaction keeps equal values equal, also those that are equal in different forms: a number in
another type, or a table in another order. Paths can be equal and differ in the letter case of what
is shown of them, so they are compared by their texts as well where redaction makes them texts.
-/

namespace DriveBridge

open CodePoint

inductive Text.PathAlike : Text → Text → Prop
  | refl (t : Text) : PathAlike t t
  | sameEnd {c d : CodePoint} {last : Text} (s t : Text) (hc : isSeparator c) (hd : isSeparator d)
      (hl : last.any isSeparator = false) : PathAlike (s ++ c :: last) (t ++ d :: last)

theorem Text.PathAlike.symm {s t : Text} (h : s.PathAlike t) : t.PathAlike s := by
  cases h with
  | refl => exact .refl _
  | sameEnd s t hc hd hl => exact .sameEnd t s hd hc hl

namespace Value

def isUntouched : Value → Bool
  | table _ | list _ | text _ | location _ => false
  | _ => true

theorem isUntouched_of_same {v w : Value} (h : same v w) (hv : v.isUntouched) : w.isUntouched := by
  cases v
  case table | list | text | location => cases hv
  all_goals
    cases w
    case table | list | text | location => simp [same, sameNumber, integer?] at h
    all_goals rfl

end Value

open Value

namespace Redactor

/-- Redaction makes texts of the paths `p` and `q`, which stand at one place in two values. Lists
are gone into for their tables only. -/
inductive Meets (r : Redactor) : Value → Value → PathValue → PathValue → Prop
  | here (p q : PathValue) : Meets r (.location p) (.location q) p q
  | entry {es fs : List (Value × Value)} {k v w : Value} {p q : PathValue}
      (hk : r.isSensitive? k = some false) (hv : (k, v) ∈ es) (hw : (k, w) ∈ fs)
      (h : Meets r v w p q) : Meets r (.table es) (.table fs) p q
  | item {xs ys : List Value} {es fs : List (Value × Value)} {i : Nat} {p q : PathValue}
      (hx : xs[i]? = some (.table es)) (hy : ys[i]? = some (.table fs))
      (h : Meets r (.table es) (.table fs) p q) : Meets r (.list xs) (.list ys) p q

def PathsAlike (r : Redactor) (v w : Value) : Prop :=
  ∀ p q, r.Meets v w p q → p.text.PathAlike q.text

def ItemPathsAlike (r : Redactor) (x y : Value) : Prop :=
  ∀ es fs, x = .table es → y = .table fs → r.PathsAlike x y

variable {r : Redactor}

theorem Meets.symm {v w : Value} {p q : PathValue} (h : r.Meets v w p q) : r.Meets w v q p := by
  induction h with
  | here p q => exact .here q p
  | entry hk hv hw _ ih => exact .entry hk hw hv ih
  | item hx hy _ ih => exact .item hy hx ih

theorem PathsAlike.symm {v w : Value} (h : r.PathsAlike v w) : r.PathsAlike w v :=
  fun p q hm => (h q p hm.symm).symm

theorem ItemPathsAlike.symm {x y : Value} (h : r.ItemPathsAlike x y) : r.ItemPathsAlike y x :=
  fun es fs hy hx => (h fs es hx hy).symm

theorem PathsAlike.entry {es fs : List (Value × Value)} {k v w : Value}
    (h : r.PathsAlike (.table es) (.table fs)) (hk : r.isSensitive? k = some false)
    (hv : (k, v) ∈ es) (hw : (k, w) ∈ fs) : r.PathsAlike v w :=
  fun p q hm => h p q (.entry hk hv hw hm)

theorem PathsAlike.tail_entry {es fs : List (Value × Value)} {e : Value × Value}
    (h : r.PathsAlike (.table (e :: es)) (.table fs)) : r.PathsAlike (.table es) (.table fs) := by
  intro p q hm
  cases hm with
  | entry hk hv hw hm => exact h p q (.entry hk (List.mem_cons_of_mem e hv) hw hm)

theorem PathsAlike.head {x y : Value} {xs ys : List Value}
    (h : r.PathsAlike (.list (x :: xs)) (.list (y :: ys))) : r.ItemPathsAlike x y := by
  rintro es fs rfl rfl p q hm
  exact h p q (.item (i := 0) rfl rfl hm)

theorem PathsAlike.tail {x y : Value} {xs ys : List Value}
    (h : r.PathsAlike (.list (x :: xs)) (.list (y :: ys))) :
    r.PathsAlike (.list xs) (.list ys) := by
  intro p q hm
  cases hm with
  | @item _ _ es fs i _ _ hx hy hm => exact h p q (.item (i := i + 1) hx hy hm)

theorem redactPath_of_pathAlike {s t : Text} (hr : r.enabled.isTrue) (h : s.PathAlike t) :
    r.redactPath s = r.redactPath t := by
  cases h with
  | refl => rfl
  | sameEnd s t hc hd hl =>
    rw [redactPath_of_separator hr s hc hl, redactPath_of_separator hr t hd hl]

theorem eq_of_same_key {k l : Value} {b : Bool} (h : same k l) (hl : r.isSensitive? l = some b) :
    k = l := by
  cases l
  case text t => exact same_text_iff.mp h
  case octets t =>
    cases k
    case octets s =>
      rw [same, beq_iff_eq] at h
      rw [h]
    all_goals simp [same, sameNumber, integer?] at h
  all_goals cases hl

theorem redactEntries_eq_cons {k v : Value} {es : List (Value × Value)} {ys : List (Value × Value)}
    (h : r.redactEntries ((k, v) :: es) = some ys) :
    ∃ w zs, r.shown k v = some w ∧ r.redactEntries es = some zs ∧ ys = (k, w) :: zs := by
  rw [redactEntries_cons] at h
  obtain ⟨w, hw, h⟩ := Option.bind_eq_some_iff.mp h
  obtain ⟨zs, hzs, rfl⟩ := Option.map_eq_some_iff.mp h
  exact ⟨w, zs, hw, hzs, rfl⟩

theorem length_redactEntries {es ys : List (Value × Value)} (h : r.redactEntries es = some ys) :
    ys.length = es.length :=
  (redactEntries_eq_some_iff.mp h).length_eq.symm

theorem mem_redactEntries {es ys : List (Value × Value)} (h : r.redactEntries es = some ys)
    {e : Value × Value} (he : e ∈ es) : ∃ w, r.shown e.1 e.2 = some w ∧ (e.1, w) ∈ ys := by
  obtain ⟨i, hi⟩ := List.getElem?_of_mem he
  obtain ⟨⟨k, w⟩, hw, rfl, hshown⟩ :=
    exists_getElem?_of_forall₂ (redactEntries_eq_some_iff.mp h) hi
  exact ⟨w, hshown, List.mem_of_getElem? hw⟩

theorem redact_of_isUntouched {v : Value} (h : v.isUntouched) :
    r.redactValue v = some v ∧ r.redactItem v = some v := by
  cases v
  case table | list | text | location => cases h
  all_goals exact ⟨rfl, rfl⟩

theorem redactItems_eq_cons {v : Value} {items ys : List Value}
    (h : r.redactItems (v :: items) = some ys) :
    ∃ w zs, r.redactItem v = some w ∧ r.redactItems items = some zs ∧ ys = w :: zs := by
  rw [redactItems_cons] at h
  obtain ⟨w, hw, h⟩ := Option.bind_eq_some_iff.mp h
  obtain ⟨zs, hzs, rfl⟩ := Option.map_eq_some_iff.mp h
  exact ⟨w, zs, hw, hzs, rfl⟩

theorem same_redactEntries {es fs xs ys : List (Value × Value)} (hl : es.length = fs.length)
    (hx : r.redactEntries es = some xs) (hy : r.redactEntries fs = some ys) (h : within xs ys) :
    same (.table xs) (.table ys) = true := by
  rw [same, length_redactEntries hx, length_redactEntries hy, hl, h, beq_self_eq_true]
  rfl

theorem shown_same {k l v w w' : Value} (hk : same k l)
    (hv : r.isSensitive? l = some false → ∀ w', r.redactValue w = some w' →
      ∃ v', r.redactValue v = some v' ∧ same v' w' = true)
    (hw : r.shown l w = some w') : ∃ v', r.shown k v = some v' ∧ same v' w' = true := by
  obtain ⟨sensitive, hl, hw⟩ := Option.bind_eq_some_iff.mp hw
  rw [shown, eq_of_same_key hk hl, hl, Option.bind_some]
  cases sensitive with
  | true =>
    obtain rfl := Option.some.inj hw
    exact ⟨.text mark, rfl, beq_self_eq_true _⟩
  | false => exact hv hl w' hw

mutual

theorem redactValue_same (hr : r.enabled.isTrue) : ∀ {v w w' : Value}, same v w →
    r.PathsAlike v w → r.redactValue w = some w' →
    ∃ v', r.redactValue v = some v' ∧ same v' w' = true
  | .table es, w, w', h, hp, hw => by
    obtain ⟨fs, rfl, hl, hin⟩ := exists_of_same_table h
    rw [redactValue] at hw
    obtain ⟨ys, hys, rfl⟩ := Option.map_eq_some_iff.mp hw
    obtain ⟨xs, hxs, hin'⟩ := redactWithin_same hr hin hp hys
    refine ⟨.table xs, ?_, same_redactEntries hl hxs hys hin'⟩
    rw [redactValue, hxs, Option.map_some]
  | .list xs, w, w', h, hp, hw => by
    obtain ⟨ys, rfl, hin⟩ := exists_of_same_list h
    rw [redactValue] at hw
    obtain ⟨ys', hys, rfl⟩ := Option.map_eq_some_iff.mp hw
    obtain ⟨xs', hxs, hsame⟩ := redactItems_same hr hin hp hys
    refine ⟨.list xs', ?_, hsame⟩
    rw [redactValue, hxs, Option.map_some]
  | .text s, w, w', h, _, hw => by
    obtain rfl := eq_of_same_text h
    rw [redactValue] at hw ⊢
    obtain rfl := Option.some.inj hw
    exact ⟨_, rfl, beq_self_eq_true _⟩
  | .location p, w, w', h, hp, hw => by
    obtain ⟨q, rfl, _⟩ := exists_of_same_location h
    rw [redactValue] at hw ⊢
    obtain rfl := Option.some.inj hw
    rw [redactPath_of_pathAlike hr (hp p q (.here p q))]
    exact ⟨_, rfl, beq_self_eq_true _⟩
  | .tuple _, w, w', h, _, hw | .client _, w, w', h, _, hw | .host _, w, w', h, _, hw
  | .null, w, w', h, _, hw | .bool _, w, w', h, _, hw | .int _, w, w', h, _, hw
  | .float _, w, w', h, _, hw | .octets _, w, w', h, _, hw | .unit _, w, w', h, _, hw => by
    have hu := (redact_of_isUntouched (r := r) (isUntouched_of_same h rfl)).1
    rw [hw] at hu
    obtain rfl := Option.some.inj hu
    exact ⟨_, rfl, h⟩

theorem redactItem_same (hr : r.enabled.isTrue) : ∀ {v w w' : Value}, same v w →
    r.ItemPathsAlike v w → r.redactItem w = some w' →
    ∃ v', r.redactItem v = some v' ∧ same v' w' = true
  | .table es, w, w', h, hp, hw => by
    obtain ⟨fs, rfl, hl, hin⟩ := exists_of_same_table h
    rw [redactItem] at hw
    obtain ⟨ys, hys, rfl⟩ := Option.map_eq_some_iff.mp hw
    obtain ⟨xs, hxs, hin'⟩ := redactWithin_same hr hin (hp _ _ rfl rfl) hys
    refine ⟨.table xs, ?_, same_redactEntries hl hxs hys hin'⟩
    rw [redactItem, hxs, Option.map_some]
  | .list xs, w, w', h, _, hw => by
    obtain ⟨ys, rfl, hin⟩ := exists_of_same_list h
    obtain rfl := Option.some.inj hw
    exact ⟨.list xs, rfl, h⟩
  | .text s, w, w', h, _, hw => by
    obtain rfl := eq_of_same_text h
    rw [redactItem] at hw ⊢
    obtain rfl := Option.some.inj hw
    exact ⟨_, rfl, beq_self_eq_true _⟩
  | .location p, w, w', h, _, hw => by
    obtain ⟨q, rfl, _⟩ := exists_of_same_location h
    obtain rfl := Option.some.inj hw
    exact ⟨_, rfl, h⟩
  | .tuple _, w, w', h, _, hw | .client _, w, w', h, _, hw | .host _, w, w', h, _, hw
  | .null, w, w', h, _, hw | .bool _, w, w', h, _, hw | .int _, w, w', h, _, hw
  | .float _, w, w', h, _, hw | .octets _, w, w', h, _, hw | .unit _, w, w', h, _, hw => by
    have hu := (redact_of_isUntouched (r := r) (isUntouched_of_same h rfl)).2
    rw [hw] at hu
    obtain rfl := Option.some.inj hu
    exact ⟨_, rfl, h⟩

theorem redactItems_same (hr : r.enabled.isTrue) : ∀ {xs ys ys' : List Value}, sameItems xs ys →
    r.PathsAlike (.list xs) (.list ys) → r.redactItems ys = some ys' →
    ∃ xs', r.redactItems xs = some xs' ∧ sameItems xs' ys' = true
  | [], [], ys', _, _, hys => by
    rw [redactItems] at hys ⊢
    obtain rfl := Option.some.inj hys
    exact ⟨[], rfl, rfl⟩
  | [], _ :: _, _, h, _, _ | _ :: _, [], _, h, _, _ => by
    cases h
  | x :: xs, y :: ys, ys', h, hp, hys => by
    rw [sameItems, Bool.and_eq_true] at h
    obtain ⟨y', zs, hy, hzs, rfl⟩ := redactItems_eq_cons hys
    obtain ⟨x', hx, hx'⟩ := redactItem_same hr h.1 hp.head hy
    obtain ⟨xs', hxs, hxs'⟩ := redactItems_same hr h.2 hp.tail hzs
    refine ⟨x' :: xs', ?_, ?_⟩
    · rw [redactItems_cons, hx, hxs]
      rfl
    · rw [sameItems, hx', hxs']
      rfl

theorem redactWithin_same (hr : r.enabled.isTrue) : ∀ {es fs ys : List (Value × Value)},
    within es fs → r.PathsAlike (.table es) (.table fs) → r.redactEntries fs = some ys →
    ∃ xs, r.redactEntries es = some xs ∧ within xs ys = true
  | [], fs, ys, _, _, hys => by
    rw [redactEntries]
    exact ⟨[], rfl, rfl⟩
  | (k, v) :: es, fs, ys, h, hp, hys => by
    -- The second table is in an order of its own, so its entry is looked up among all that are shown.
    obtain ⟨⟨l, w⟩, hf, hk, hv⟩ := within_iff.mp h (k, v) List.mem_cons_self
    obtain ⟨w', hw, hm⟩ := mem_redactEntries hys hf
    have hvalue : r.isSensitive? l = some false → ∀ u, r.redactValue w = some u →
        ∃ v', r.redactValue v = some v' ∧ same v' u = true := by
      intro hl u hu
      obtain rfl : k = l := eq_of_same_key hk hl
      exact redactValue_same hr hv (hp.entry hl List.mem_cons_self hf) hu
    obtain ⟨v', hv', hvw⟩ := shown_same hk hvalue hw
    have hrest : within es fs := within_iff.mpr fun e he =>
      within_iff.mp h e (List.mem_cons_of_mem _ he)
    obtain ⟨xs, hxs, hin⟩ := redactWithin_same hr hrest hp.tail_entry hys
    refine ⟨(k, v') :: xs, ?_, ?_⟩
    · rw [redactEntries_cons, hv', hxs]
      rfl
    · apply within_iff.mpr
      rw [List.forall_mem_cons]
      exact ⟨⟨_, hm, hk, hvw⟩, within_iff.mp hin⟩

end

end Redactor

end DriveBridge
