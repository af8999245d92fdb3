import DriveBridge.Proofs.Redaction.Refusal

namespace DriveBridge

open CodePoint Value

def Value.part? : Value → List Nat → Option Value
  | v, [] => some v
  | .table es, i :: place => es[i]?.bind fun e => e.2.part? place
  | .list items, i :: place => items[i]?.bind fun v => v.part? place
  | _, _ :: _ => none

namespace Redactor

/-- The tables that redaction comes to, with their places. -/
inductive ComesToAt (r : Redactor) :
    List (Value × Value) → List Nat → List (Value × Value) → Prop
  | here (es : List (Value × Value)) : ComesToAt r es [] es
  | entry {es fs gs : List (Value × Value)} {k : Value} {i : Nat} {place : List Nat}
      (hk : r.hides k = false) (hi : es[i]? = some (k, .table fs))
      (h : ComesToAt r fs place gs) : ComesToAt r es (i :: place) gs
  | item {es fs gs : List (Value × Value)} {items : List Value} {k : Value} {i j : Nat}
      {place : List Nat} (hk : r.hides k = false) (hi : es[i]? = some (k, .list items))
      (hj : items[j]? = some (.table fs)) (h : ComesToAt r fs place gs) :
      ComesToAt r es (i :: j :: place) gs

inductive ItemKept (r : Redactor) : Value → Value → Prop
  | table (es fs : List (Value × Value)) : ItemKept r (.table es) (.table fs)
  | text {t u : Text} (h : r.enabled.isTrue = false ∨ t.any isSeparator = false → u = t) :
      ItemKept r (.text t) (.text u)
  | other {v : Value} (htable : ∀ es, v ≠ .table es) (htext : ∀ t, v ≠ .text t) : ItemKept r v v

inductive ValueKept (r : Redactor) : Value → Value → Prop
  | table (es fs : List (Value × Value)) : ValueKept r (.table es) (.table fs)
  | list {xs ys : List Value} (h : List.Forall₂ (ItemKept r) xs ys) :
      ValueKept r (.list xs) (.list ys)
  | text {t u : Text} (h : r.enabled.isTrue = false ∨ t.any isSeparator = false → u = t) :
      ValueKept r (.text t) (.text u)
  | location {p : PathValue} {u : Text} (h : r.enabled.isTrue = false → u = p.text) :
      ValueKept r (.location p) (.text u)
  | other {v : Value} (h : v.isUntouched) : ValueKept r v v

inductive EntryKept (r : Redactor) : Value × Value → Value × Value → Prop
  | hidden {k : Text} (hk : Text.lower k ∈ r.names) (v : Value) :
      EntryKept r (.text k, v) (.text k, .text mark)
  | shown {k : Text} {v w : Value} (hk : Text.lower k ∉ r.names) (h : ValueKept r v w) :
      EntryKept r (.text k, v) (.text k, w)

variable {r : Redactor}

theorem exists_comesToAt {es fs : List (Value × Value)} (h : r.ComesTo es fs) :
    ∃ place, r.ComesToAt es place fs := by
  induction h with
  | here es => exact ⟨[], .here es⟩
  | onward hk hm ho _ ih =>
    obtain ⟨place, hplace⟩ := ih
    obtain ⟨i, hi⟩ := List.getElem?_of_mem hm
    cases ho with
    | table => exact ⟨i :: place, .entry hk hi hplace⟩
    | item hitem =>
      obtain ⟨j, hj⟩ := List.getElem?_of_mem hitem
      exact ⟨i :: j :: place, .item hk hi hj hplace⟩

theorem itemKept_of_redactItem {v w : Value} (h : r.redactItem v = some w) : ItemKept r v w := by
  cases v
  case table es =>
    rw [redactItem] at h
    obtain ⟨fs, _, rfl⟩ := Option.map_eq_some_iff.mp h
    exact .table es fs
  case text t =>
    rw [redactItem] at h
    obtain rfl := Option.some.inj h
    exact .text redactPath_eq_self
  all_goals
    obtain rfl := Option.some.inj h
    exact .other (fun _ => Value.noConfusion) (fun _ => Value.noConfusion)

theorem valueKept_of_redactValue {v w : Value} (h : r.redactValue v = some w) :
    ValueKept r v w := by
  cases v
  case table es =>
    rw [redactValue] at h
    obtain ⟨fs, _, rfl⟩ := Option.map_eq_some_iff.mp h
    exact .table es fs
  case list items =>
    rw [redactValue] at h
    obtain ⟨ws, hws, rfl⟩ := Option.map_eq_some_iff.mp h
    exact .list ((redactItems_eq_some_iff.mp hws).imp fun _ _ => itemKept_of_redactItem)
  case text t =>
    rw [redactValue] at h
    obtain rfl := Option.some.inj h
    exact .text redactPath_eq_self
  case location p =>
    rw [redactValue] at h
    obtain rfl := Option.some.inj h
    exact .location fun hr => redactPath_eq_self (.inl hr)
  all_goals
    obtain rfl := Option.some.inj h
    exact .other rfl

theorem entryKept_of_shown {k : Text} {v w : Value} (h : r.shown (.text k) v = some w) :
    EntryKept r (.text k, v) (.text k, w) := by
  by_cases hk : Text.lower k ∈ r.names
  · rw [shown_of_sensitive hk] at h
    obtain rfl := Option.some.inj h
    exact .hidden hk v
  · rw [shown_of_not_sensitive hk] at h
    exact .shown hk (valueKept_of_redactValue h)

theorem entriesKept_of_redactEntries {es ys : List (Value × Value)}
    (h : r.redactEntries es = some ys) (hkeys : ∀ e ∈ es, ∃ k, e.1 = .text k) :
    List.Forall₂ (EntryKept r) es ys := by
  rw [redactEntries_eq_some_iff] at h
  induction h with
  | nil => exact .nil
  | @cons e f es ys hef _ ih =>
    rw [List.forall_mem_cons] at hkeys
    obtain ⟨⟨k, hk⟩, hkeys⟩ := hkeys
    obtain ⟨_, v⟩ := e
    obtain ⟨key, w⟩ := f
    obtain ⟨rfl, hshown⟩ := hef
    obtain rfl : key = .text k := hk
    exact .cons (entryKept_of_shown hshown) (ih hkeys)

theorem redactValue_of_shown {k v w : Value} (hk : r.hides k = false)
    (h : r.shown k v = some w) : r.redactValue v = some w := by
  obtain ⟨b, hb, _⟩ := Option.bind_eq_some_iff.mp h
  rw [shown_eq hb, hk, if_neg Bool.false_ne_true] at h
  exact h

theorem ComesToAt.exists_part {es fs ys : List (Value × Value)} {place : List Nat}
    (h : r.ComesToAt es place fs) (hes : r.redactEntries es = some ys) :
    ∃ zs, r.redactEntries fs = some zs ∧ (Value.table ys).part? place = some (.table zs) := by
  -- Along the place: what is redacted of the outer table holds the inner one redacted.
  induction h generalizing ys with
  | here es => exact ⟨ys, hes, rfl⟩
  | entry hk hi _ ih =>
    obtain ⟨⟨k, w⟩, hw, _, hshown⟩ :=
      exists_getElem?_of_forall₂ (redactEntries_eq_some_iff.mp hes) hi
    have hv := redactValue_of_shown hk hshown
    rw [redactValue] at hv
    obtain ⟨zs, hzs, rfl⟩ := Option.map_eq_some_iff.mp hv
    obtain ⟨us, hus, hpart⟩ := ih hzs
    refine ⟨us, hus, ?_⟩
    rw [Value.part?, hw]
    exact hpart
  | item hk hi hj _ ih =>
    obtain ⟨⟨k, w⟩, hw, _, hshown⟩ :=
      exists_getElem?_of_forall₂ (redactEntries_eq_some_iff.mp hes) hi
    have hv := redactValue_of_shown hk hshown
    rw [redactValue] at hv
    obtain ⟨ws, hws, rfl⟩ := Option.map_eq_some_iff.mp hv
    obtain ⟨x, hx, hitem⟩ := exists_getElem?_of_forall₂ (redactItems_eq_some_iff.mp hws) hj
    rw [redactItem] at hitem
    obtain ⟨zs, hzs, rfl⟩ := Option.map_eq_some_iff.mp hitem
    obtain ⟨us, hus, hpart⟩ := ih hzs
    refine ⟨us, hus, ?_⟩
    rw [Value.part?, hw, Option.bind_some, Value.part?, hx]
    exact hpart

/-- Redaction keeps keys, places and lengths at every depth, and all values but those under sensitive
keys and the texts that are paths. -/
theorem redactEntries_keeps {es : List (Value × Value)}
    (hkeys : ∀ place fs, r.ComesToAt es place fs → ∀ e ∈ fs, ∃ k, e.1 = .text k) :
    ∃ ys, r.redactEntries es = some ys ∧ ∀ place fs, r.ComesToAt es place fs →
      ∃ zs, (Value.table ys).part? place = some (.table zs) ∧
        List.Forall₂ (EntryKept r) fs zs := by
  have hsome : (r.redactEntries es).isSome := by
    rw [redactEntries_isSome_iff]
    intro fs hfs e he
    obtain ⟨place, hplace⟩ := exists_comesToAt hfs
    obtain ⟨k, hk⟩ := hkeys place fs hplace e he
    rw [hk]
    rfl
  obtain ⟨ys, hys⟩ := Option.isSome_iff_exists.mp hsome
  refine ⟨ys, hys, ?_⟩
  intro place fs hfs
  obtain ⟨zs, hzs, hpart⟩ := hfs.exists_part hys
  exact ⟨zs, hpart, entriesKept_of_redactEntries hzs (hkeys place fs hfs)⟩

theorem ComesToAt.haveTextKeys {es fs : List (Value × Value)} {place : List Nat}
    (h : r.ComesToAt es place fs) (hes : entriesHaveTextKeys es) : entriesHaveTextKeys fs := by
  induction h with
  | here => exact hes
  | entry _ hi _ ih =>
    exact ih (forall_of_entriesHaveTextKeys hes _ (List.mem_of_getElem? hi)).2
  | item _ hi hj _ ih =>
    have hitems := (forall_of_entriesHaveTextKeys hes _ (List.mem_of_getElem? hi)).2
    exact ih (forall_of_itemsHaveTextKeys hitems _ (List.mem_of_getElem? hj))

def switchedOff : Redactor :=
  ⟨.bool false, defaultNames ++ [Text.lower "Share_Secret"], []⟩

def inner : List (Value × Value) :=
  [(.text "SHARE_SECRET", .null), (.text "name", .text "a\\b"), (.text "pair", .tuple [.text "c/d"])]

def outer : List (Value × Value) :=
  [(.text "file", .location (.posix ⟨.root, ["srv", "x"]⟩)),
    (.text "more", .list [.list [.text "e/f"], .table inner])]

theorem keeps_outer : (make (.bool false) []).add (.text "Share_Secret") = some switchedOff ∧
    ∃ ys zs, switchedOff.redactEntries outer = some ys ∧
      (Value.table ys).part? [1, 1] = some (.table zs) ∧
      List.Forall₂ (EntryKept switchedOff) inner zs := by
  have hkeys : ∀ place fs, ComesToAt switchedOff outer place fs →
      ∀ e ∈ fs, ∃ k, e.1 = .text k := by
    intro place fs h e he
    exact (forall_of_entriesHaveTextKeys (h.haveTextKeys rfl) e he).1
  have hinner : ComesToAt switchedOff outer [1, 1] inner :=
    .item (by decide +kernel) rfl rfl (.here inner)
  obtain ⟨ys, hys, hparts⟩ := redactEntries_keeps hkeys
  obtain ⟨zs, hzs, hkept⟩ := hparts _ _ hinner
  exact ⟨rfl, ys, zs, hys, hzs, hkept⟩

end Redactor

end DriveBridge
