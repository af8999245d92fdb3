import DriveBridge.Proofs.Redaction.Refusal

namespace DriveBridge

def Value.pathText? : Value → Option Text
  | text t => some t
  | location p => some p.text
  | _ => none

namespace Redactor

section

variable (r : Redactor) (eq eqItem eqShown : Value → Value → Prop)

mutual

/-- Tables with the same keys in the same order that redaction has to take for the same, where
`eq` says which values under a key are equal and `eqItem` which items of a list. -/
inductive AlikeEntries : List (Value × Value) → List (Value × Value) → Prop
  | nil : AlikeEntries [] []
  | sensitive {k : Text} {v w : Value} {es fs : List (Value × Value)} (hk : Text.lower k ∈ r.names)
      (hs : AlikeEntries es fs) : AlikeEntries ((.text k, v) :: es) ((.text k, w) :: fs)
  | shown {k : Text} {v w : Value} {es fs : List (Value × Value)} (h : AlikeValue v w)
      (hs : AlikeEntries es fs) : AlikeEntries ((.text k, v) :: es) ((.text k, w) :: fs)

inductive AlikeValue : Value → Value → Prop
  | equal {v w : Value} (h : eq v w) : AlikeValue v w
  | table {es fs : List (Value × Value)} (h : AlikeEntries es fs) :
      AlikeValue (.table es) (.table fs)
  | list {xs ys : List Value} (h : AlikeItems xs ys) : AlikeValue (.list xs) (.list ys)
  | path {v w : Value} {s t : Text} (hv : v.pathText? = some s) (hw : w.pathText? = some t)
      (h : s.PathAlike t) : AlikeValue v w

inductive AlikeItems : List Value → List Value → Prop
  | nil : AlikeItems [] []
  | cons {x y : Value} {xs ys : List Value} (h : AlikeItem x y) (hs : AlikeItems xs ys) :
      AlikeItems (x :: xs) (y :: ys)

inductive AlikeItem : Value → Value → Prop
  | equal {x y : Value} (h : eqItem x y) : AlikeItem x y
  | table {es fs : List (Value × Value)} (h : AlikeEntries es fs) :
      AlikeItem (.table es) (.table fs)
  | text {s t : Text} (h : s.PathAlike t) : AlikeItem (.text s) (.text t)

end

inductive EqualItems : List Value → List Value → Prop
  | nil : EqualItems [] []
  | cons {x y : Value} {xs ys : List Value} (h : eqShown x y) (hs : EqualItems xs ys) :
      EqualItems (x :: xs) (y :: ys)

inductive EqualEntries : List (Value × Value) → List (Value × Value) → Prop
  | nil : EqualEntries [] []
  | cons (k : Text) {v w : Value} {es fs : List (Value × Value)} (h : eqShown v w)
      (hs : EqualEntries es fs) : EqualEntries ((.text k, v) :: es) ((.text k, w) :: fs)

structure IsEquality : Prop where
  text (t : Text) : eqShown (.text t) (.text t)
  list {xs ys : List Value} (h : EqualItems eqShown xs ys) : eqShown (.list xs) (.list ys)
  table {es fs : List (Value × Value)} (h : EqualEntries eqShown es fs) :
    eqShown (.table es) (.table fs)
  redactValue {v w : Value} (h : eq v w) : Option.Rel eqShown (r.redactValue v) (r.redactValue w)
  redactItem {v w : Value} (h : eqItem v w) : Option.Rel eqShown (r.redactItem v) (r.redactItem w)

end

variable {r : Redactor} {eq eqItem eqShown : Value → Value → Prop}

theorem redactValue_of_pathText? {v : Value} {t : Text} (h : v.pathText? = some t) :
    r.redactValue v = some (.text (r.redactPath t)) := by
  cases v
  case text u =>
    obtain rfl := Option.some.inj h
    rw [redactValue]
  case location p =>
    obtain rfl := Option.some.inj h
    rw [redactValue]
  all_goals cases h

theorem rel_imp {α : Type} {R S : α → α → Prop} {x y : Option α} (h : Option.Rel R x y)
    (hRS : ∀ a b, R a b → S a b) : Option.Rel S x y := by
  cases h with
  | some h => exact .some (hRS _ _ h)
  | none => exact .none

theorem rel_map {α β : Type} {R : α → α → Prop} {S : β → β → Prop} {x y : Option α} {f g : α → β}
    (h : Option.Rel R x y) (hf : ∀ a b, R a b → S (f a) (g b)) :
    Option.Rel S (x.map f) (y.map g) := by
  cases h with
  | some h => exact .some (hf _ _ h)
  | none => exact .none

theorem rel_bind {α β : Type} {R : α → α → Prop} {S : β → β → Prop} {x y : Option α}
    {f g : α → Option β} (h : Option.Rel R x y) (hf : ∀ a b, R a b → Option.Rel S (f a) (g b)) :
    Option.Rel S (x.bind f) (y.bind g) := by
  cases h with
  | some h => exact hf _ _ h
  | none => exact .none

theorem redactEntries_cons_alike {k : Text} {v w : Value} {es fs : List (Value × Value)}
    (h : Option.Rel eqShown (r.shown (.text k) v) (r.shown (.text k) w))
    (hs : Option.Rel (EqualEntries eqShown) (r.redactEntries es) (r.redactEntries fs)) :
    Option.Rel (EqualEntries eqShown) (r.redactEntries ((.text k, v) :: es))
      (r.redactEntries ((.text k, w) :: fs)) := by
  rw [redactEntries_cons, redactEntries_cons]
  apply rel_bind h
  intro x y hxy
  apply rel_map hs
  intro xs ys hxys
  exact .cons k hxy hxys

theorem shown_alike (he : IsEquality r eq eqItem eqShown) (k : Text) {v w : Value}
    (h : Option.Rel eqShown (r.redactValue v) (r.redactValue w)) :
    Option.Rel eqShown (r.shown (.text k) v) (r.shown (.text k) w) := by
  by_cases hk : Text.lower k ∈ r.names
  · rw [shown_of_sensitive hk, shown_of_sensitive hk]
    exact .some (he.text mark)
  · rw [shown_of_not_sensitive hk, shown_of_not_sensitive hk]
    exact h

mutual

theorem redactEntries_alike (he : IsEquality r eq eqItem eqShown) (hr : r.enabled.isTrue)
    {es fs : List (Value × Value)} (h : AlikeEntries r eq eqItem es fs) :
    Option.Rel (EqualEntries eqShown) (r.redactEntries es) (r.redactEntries fs) := by
  cases h with
  | nil =>
    rw [redactEntries]
    exact .some .nil
  | @sensitive k v w es fs hk hs =>
    apply redactEntries_cons_alike
    · rw [shown_of_sensitive hk, shown_of_sensitive hk]
      exact .some (he.text mark)
    · exact redactEntries_alike he hr hs
  | @shown k v w es fs h hs =>
    apply redactEntries_cons_alike
    · exact shown_alike he k (redactValue_alike he hr h)
    · exact redactEntries_alike he hr hs

theorem redactValue_alike (he : IsEquality r eq eqItem eqShown) (hr : r.enabled.isTrue)
    {v w : Value} (h : AlikeValue r eq eqItem v w) :
    Option.Rel eqShown (r.redactValue v) (r.redactValue w) := by
  cases h with
  | equal h => exact he.redactValue h
  | table h =>
    rw [redactValue, redactValue]
    exact rel_map (redactEntries_alike he hr h) fun _ _ => he.table
  | list h =>
    rw [redactValue, redactValue]
    exact rel_map (redactItems_alike he hr h) fun _ _ => he.list
  | path hv hw h =>
    rw [redactValue_of_pathText? hv, redactValue_of_pathText? hw, redactPath_of_pathAlike hr h]
    exact .some (he.text _)

theorem redactItems_alike (he : IsEquality r eq eqItem eqShown) (hr : r.enabled.isTrue)
    {xs ys : List Value} (h : AlikeItems r eq eqItem xs ys) :
    Option.Rel (EqualItems eqShown) (r.redactItems xs) (r.redactItems ys) := by
  cases h with
  | nil =>
    rw [redactItems]
    exact .some .nil
  | cons h hs =>
    rw [redactItems_cons, redactItems_cons]
    apply rel_bind (redactItem_alike he hr h)
    intro x y hxy
    apply rel_map (redactItems_alike he hr hs)
    intro xs ys hxys
    exact .cons hxy hxys

theorem redactItem_alike (he : IsEquality r eq eqItem eqShown) (hr : r.enabled.isTrue)
    {x y : Value} (h : AlikeItem r eq eqItem x y) :
    Option.Rel eqShown (r.redactItem x) (r.redactItem y) := by
  cases h with
  | equal h => exact he.redactItem h
  | table h =>
    rw [redactItem, redactItem]
    exact rel_map (redactEntries_alike he hr h) fun _ _ => he.table
  | text h =>
    rw [redactItem, redactItem, redactPath_of_pathAlike hr h]
    exact .some (he.text _)

end

theorem eq_of_equalItems {xs ys : List Value} (h : EqualItems Eq xs ys) : xs = ys := by
  induction h with
  | nil => rfl
  | cons h _ ih => rw [h, ih]

theorem eq_of_equalEntries {es fs : List (Value × Value)} (h : EqualEntries Eq es fs) :
    es = fs := by
  induction h with
  | nil => rfl
  | cons k h _ ih => rw [h, ih]

theorem isEquality_eq (r : Redactor) : IsEquality r Eq Eq Eq where
  text _ := rfl
  list h := by
    rw [eq_of_equalItems h]
  table h := by
    rw [eq_of_equalEntries h]
  redactValue h := by
    rw [h]
    cases r.redactValue _ with
    | none => exact .none
    | some => exact .some rfl
  redactItem h := by
    rw [h]
    cases r.redactItem _ with
    | none => exact .none
    | some => exact .some rfl

open Value

theorem EqualItems.symm (hs : ∀ {v w}, eqShown v w → eqShown w v) {xs ys : List Value}
    (h : EqualItems eqShown xs ys) : EqualItems eqShown ys xs := by
  induction h with
  | nil => exact .nil
  | cons h _ ih => exact .cons (hs h) ih

theorem EqualEntries.symm (hs : ∀ {v w}, eqShown v w → eqShown w v) {es fs : List (Value × Value)}
    (h : EqualEntries eqShown es fs) : EqualEntries eqShown fs es := by
  induction h with
  | nil => exact .nil
  | cons k h _ ih => exact .cons k (hs h) ih

theorem EqualEntries.length_eq {es fs : List (Value × Value)} (h : EqualEntries eqShown es fs) :
    es.length = fs.length := by
  induction h with
  | nil => rfl
  | cons k h _ ih => rw [List.length_cons, List.length_cons, ih]

theorem sameItems_of_equalItems (he : ∀ {v w}, eqShown v w → same v w) {xs ys : List Value}
    (h : EqualItems eqShown xs ys) : sameItems xs ys = true := by
  induction h with
  | nil => rfl
  | cons h _ ih =>
    rw [sameItems, he h, ih]
    rfl

theorem within_of_equalEntries (he : ∀ {v w}, eqShown v w → same v w) {es fs : List (Value × Value)}
    (h : EqualEntries eqShown es fs) : within es fs = true := by
  apply within_iff.mpr
  induction h with
  | nil =>
    intro e hm
    cases hm
  | @cons k v w es fs h _ ih =>
    rw [List.forall_mem_cons]
    constructor
    · exact ⟨_, List.mem_cons_self, beq_self_eq_true k, he h⟩
    · intro e hm
      obtain ⟨f, hf, hkv⟩ := ih e hm
      exact ⟨f, List.mem_cons_of_mem _ hf, hkv⟩

theorem same_of_equalEntries (he : ∀ {v w}, eqShown v w → same v w) {es fs : List (Value × Value)}
    (h : EqualEntries eqShown es fs) : same (.table es) (.table fs) = true := by
  rw [same, h.length_eq, within_of_equalEntries he h, beq_self_eq_true]
  rfl

def Equal (v w : Value) : Prop := same v w = true ∧ same w v = true

def ShownEqual (r : Redactor) (v w : Value) : Prop := Equal v w ∧ r.PathsAlike v w

def ItemShownEqual (r : Redactor) (x y : Value) : Prop := Equal x y ∧ r.ItemPathsAlike x y

theorem Equal.symm {v w : Value} (h : Equal v w) : Equal w v := ⟨h.2, h.1⟩

theorem rel_equal {x y : Option Value}
    (hx : ∀ v, x = some v → ∃ w, y = some w ∧ same w v = true)
    (hy : ∀ w, y = some w → ∃ v, x = some v ∧ same v w = true) : Option.Rel Equal x y := by
  cases x with
  | none =>
    cases y with
    | none => exact .none
    | some w =>
      obtain ⟨v, hv, _⟩ := hy w rfl
      cases hv
  | some v =>
    obtain ⟨w, hw, hwv⟩ := hx v rfl
    obtain ⟨v', hv, hvw⟩ := hy w hw
    cases hv
    rw [hw]
    exact .some ⟨hvw, hwv⟩

theorem isEquality_equal (hr : r.enabled.isTrue) :
    IsEquality r r.ShownEqual r.ItemShownEqual Equal where
  text t := ⟨beq_self_eq_true t, beq_self_eq_true t⟩
  list h := by
    constructor
    · exact sameItems_of_equalItems (fun h => h.1) h
    · exact sameItems_of_equalItems (fun h => h.1) (h.symm .symm)
  table h := by
    constructor
    · exact same_of_equalEntries (fun h => h.1) h
    · exact same_of_equalEntries (fun h => h.1) (h.symm .symm)
  redactValue h := by
    apply rel_equal
    · intro v hv
      exact redactValue_same hr h.1.2 h.2.symm hv
    · intro w hw
      exact redactValue_same hr h.1.1 h.2 hw
  redactItem h := by
    apply rel_equal
    · intro v hv
      exact redactItem_same hr h.1.2 h.2.symm hv
    · intro w hw
      exact redactItem_same hr h.1.1 h.2 hw

theorem eq_of_rel {α : Type} {x y : Option α} (h : Option.Rel Eq x y) : x = y := by
  cases h with
  | some h => rw [h]
  | none => rfl

/-- What redaction shows of two tables is the same if they differ only in the directories of paths
and under sensitive keys, and it is equal if their other values are no more than equal and are shown
alike. Both are refused or none, for a key in a table that redaction comes to. -/
theorem redactEntries_of_alike (hr : r.enabled.isTrue) (es fs : List (Value × Value)) :
    (AlikeEntries r Eq Eq es fs → r.redactEntries es = r.redactEntries fs) ∧
    (AlikeEntries r r.ShownEqual r.ItemShownEqual es fs →
      Option.Rel (fun xs ys => Equal (.table xs) (.table ys))
        (r.redactEntries es) (r.redactEntries fs)) ∧
    ((r.redactEntries es).isSome ↔ ∀ gs, r.ComesTo es gs → ∀ e ∈ gs, e.1.isNameLike) := by
  refine ⟨?_, ?_, ?_⟩
  · intro h
    apply eq_of_rel
    apply rel_imp (redactEntries_alike (isEquality_eq r) hr h)
    intro xs ys
    exact eq_of_equalEntries
  · intro h
    apply rel_imp (redactEntries_alike (isEquality_equal hr) hr h)
    intro xs ys
    exact (isEquality_equal hr).table
  · exact redactEntries_isSome_iff es

def ofAlice : List (Value × Value) :=
  [(.text "file", .text "/home/alice/x"), (.text "Token", .int 1),
    (.text "home", .location (.drive ⟨"C:", "\\", ["Users", "alice", "z"]⟩)),
    (.text "more", .list [.table [(.text "key", .null)], .text "C:\\alice\\y"])]

def ofBob : List (Value × Value) :=
  [(.text "file", .text "\\bob\\x"), (.text "Token", .text "t"),
    (.text "home", .location (.posix ⟨.root, ["bob", "z"]⟩)),
    (.text "more", .list [.table [(.text "key", .tuple [])], .text "/bob/y"])]

theorem redactEntries_ofAlice : (make (.bool true) []).redactEntries ofAlice =
    (make (.bool true) []).redactEntries ofBob := by
  have hx : Text.PathAlike "/home/alice/x" "\\bob\\x" :=
    .sameEnd "/home/alice" "\\bob" rfl rfl rfl
  have hy : Text.PathAlike "C:\\alice\\y" "/bob/y" := .sameEnd "C:\\alice" "/bob" rfl rfl rfl
  have hz : Text.PathAlike "C:\\Users\\alice\\z" "/bob/z" :=
    .sameEnd "C:\\Users\\alice" "/bob" rfl rfl rfl
  apply (redactEntries_of_alike (r := make (.bool true) []) rfl ofAlice ofBob).1
  apply AlikeEntries.shown (.path rfl rfl hx)
  apply AlikeEntries.sensitive (by decide +kernel)
  apply AlikeEntries.shown (.path rfl rfl hz)
  apply AlikeEntries.shown _ .nil
  apply AlikeValue.list
  apply AlikeItems.cons (.table _) (.cons (.text hy) .nil)
  exact .sensitive (by decide +kernel) .nil

def written : List (Value × Value) :=
  [(.text "file", .location (.drive ⟨"C:", "\\", ["Users", "alice", "Report"]⟩))]

def inCapitals : List (Value × Value) :=
  [(.text "file", .location (.drive ⟨"c:", "\\", ["users", "ALICE", "REPORT"]⟩))]

def numbered : List (Value × Value) := [(.text "a", .table [(.int 1, .int 2)])]

/-- Equal paths on a drive keep the letter case of their last names, and a table with a number for a
key is refused beside itself. -/
theorem redacted_apart :
    AlikeEntries (make (.bool true) []) Equal Equal written inCapitals ∧
    ¬ Option.Rel (fun xs ys => Equal (.table xs) (.table ys))
      ((make (.bool true) []).redactEntries written)
      ((make (.bool true) []).redactEntries inCapitals) ∧
    AlikeEntries (make (.bool true) []) Equal Equal numbered numbered ∧
    (make (.bool true) []).redactEntries numbered = none := by
  have hsame : Equal (.location (.drive ⟨"C:", "\\", ["Users", "alice", "Report"]⟩))
      (.location (.drive ⟨"c:", "\\", ["users", "ALICE", "REPORT"]⟩)) := by
    constructor <;> decide +kernel
  have hx : (make (.bool true) []).redactEntries written =
      some [(.text "file", .text "[REDACTED]/Report")] := by
    rfl
  have hy : (make (.bool true) []).redactEntries inCapitals =
      some [(.text "file", .text "[REDACTED]/REPORT")] := by
    rfl
  refine ⟨.shown (.equal hsame) .nil, ?_, .shown (.equal ⟨rfl, rfl⟩) .nil, rfl⟩
  rw [hx, hy]
  rintro (h | h)
  exact absurd h.1 (by decide +kernel)

end Redactor

end DriveBridge
