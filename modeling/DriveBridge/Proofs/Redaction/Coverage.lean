import DriveBridge.Proofs.Log.WrittenForm
import DriveBridge.Proofs.Redaction.Equality

namespace DriveBridge

open CodePoint Value

namespace Redactor

def hides (r : Redactor) (k : Value) : Bool := r.isSensitive? k == some true

mutual

/-- What should be written of a value: at any depth, paths without their directories, and the mark
under a sensitive key. -/
def conceal (r : Redactor) : Value → Value
  | .list items => .list (concealItems r items)
  | .tuple items => .list (concealItems r items)
  | .table es => .table (concealEntries r es)
  | .text t => .text (r.redactPath t)
  | .location p => .text (r.redactPath p.text)
  | .client p => .text (r.redactPath p.text)
  | .host p => .text (r.redactPath p.text)
  | v => v.writtenForm

def concealItems (r : Redactor) : List Value → List Value
  | [] => []
  | v :: vs => conceal r v :: concealItems r vs

def concealEntries (r : Redactor) : List (Value × Value) → List (Value × Value)
  | [] => []
  | (k, v) :: es => (k, if r.hides k then .text mark else conceal r v) :: concealEntries r es

end

def isClear (t : Text) : Bool :=
  !t.any isSeparator || t == mark ++ slash :: Text.takeBackWhile (!isSeparator ·) t

def isMarked (v : Value) : Bool :=
  match v.writtenForm with
  | .text t => t == mark
  | _ => false

mutual

def isPlain (r : Redactor) : Value → Bool
  | .list items => itemsArePlain r items
  | .tuple items => itemsArePlain r items
  | .table es => entriesArePlain r es
  | .text t => isClear t
  | .location p => isClear p.text
  | .client p => isClear p.text
  | .host p => isClear p.text
  | _ => true

def itemsArePlain (r : Redactor) : List Value → Bool
  | [] => true
  | v :: vs => isPlain r v && itemsArePlain r vs

def entriesArePlain (r : Redactor) : List (Value × Value) → Bool
  | [] => true
  | (k, v) :: es => (if r.hides k then isMarked v else isPlain r v) && entriesArePlain r es

end

mutual

def isCovered (r : Redactor) : Value → Bool
  | .table es => entriesAreCovered r es
  | .list items => itemsAreCovered r items
  | .text _ => true
  | .location _ => true
  | v => isPlain r v

def isCoveredItem (r : Redactor) : Value → Bool
  | .table es => entriesAreCovered r es
  | .text _ => true
  | v => isPlain r v

def itemsAreCovered (r : Redactor) : List Value → Bool
  | [] => true
  | v :: vs => isCoveredItem r v && itemsAreCovered r vs

def entriesAreCovered (r : Redactor) : List (Value × Value) → Bool
  | [] => true
  | (k, v) :: es => (r.hides k || isCovered r v) && entriesAreCovered r es

end

variable {r : Redactor}

theorem redactPath_eq_self_iff (hr : r.enabled.isTrue) (t : Text) :
    t = r.redactPath t ↔ isClear t := by
  rw [redactPath, hr, Bool.true_and, isClear]
  cases t.any isSeparator with
  | true => exact beq_iff_eq.symm
  | false => exact iff_of_true rfl rfl

theorem writtenForm_eq_mark_iff (v : Value) : v.writtenForm = .text mark ↔ isMarked v := by
  rw [isMarked]
  split
  · rename_i t ht
    rw [ht, Value.text.injEq, beq_iff_eq]
  · rename_i ht
    exact iff_of_false (ht mark) Bool.false_ne_true

mutual

theorem writtenForm_eq_conceal_iff (hr : r.enabled.isTrue) :
    ∀ v : Value, v.writtenForm = r.conceal v ↔ r.isPlain v
  | .list items => by
    rw [writtenForm, conceal, isPlain, Value.list.injEq]
    exact writtenItems_eq_conceal_iff hr items
  | .tuple items => by
    rw [writtenForm, conceal, isPlain, Value.list.injEq]
    exact writtenItems_eq_conceal_iff hr items
  | .table es => by
    rw [writtenForm, conceal, isPlain, Value.table.injEq]
    exact writtenEntries_eq_conceal_iff hr es
  | .text t => by
    rw [writtenForm, conceal, isPlain, Value.text.injEq]
    · exact redactPath_eq_self_iff hr t
    all_goals
      intros
      contradiction
  | .location p | .client p | .host p => by
    rw [writtenForm, conceal, isPlain, Value.text.injEq]
    exact redactPath_eq_self_iff hr p.text
  | .null | .bool _ | .int _ | .float _ | .octets _ | .unit _ => iff_of_true rfl rfl

theorem writtenItems_eq_conceal_iff (hr : r.enabled.isTrue) :
    ∀ items : List Value, writtenItems items = r.concealItems items ↔ r.itemsArePlain items
  | [] => iff_of_true rfl rfl
  | v :: items => by
    rw [writtenItems, concealItems, itemsArePlain, List.cons.injEq, Bool.and_eq_true,
      writtenForm_eq_conceal_iff hr v, writtenItems_eq_conceal_iff hr items]

theorem writtenEntries_eq_conceal_iff (hr : r.enabled.isTrue) :
    ∀ es : List (Value × Value), writtenEntries es = r.concealEntries es ↔ r.entriesArePlain es
  | [] => iff_of_true rfl rfl
  | (k, v) :: es => by
    rw [writtenEntries, concealEntries, entriesArePlain, List.cons.injEq, Prod.mk.injEq,
      Bool.and_eq_true, writtenEntries_eq_conceal_iff hr es]
    cases r.hides k with
    | true => simp only [if_true, true_and, writtenForm_eq_mark_iff]
    | false => simp only [Bool.false_eq_true, if_false, true_and, writtenForm_eq_conceal_iff hr v]

end

theorem shown_eq {k : Value} {b : Bool} (h : r.isSensitive? k = some b) (v : Value) :
    r.shown k v = if r.hides k then some (.text mark) else r.redactValue v := by
  rw [shown, hides, h]
  cases b <;> rfl

mutual

theorem redactValue_hides_iff (hr : r.enabled.isTrue) : ∀ {v w : Value},
    r.redactValue v = some w → (w.writtenForm = r.conceal v ↔ r.isCovered v)
  | .table es, w, h => by
    rw [redactValue] at h
    obtain ⟨xs, hxs, rfl⟩ := Option.map_eq_some_iff.mp h
    rw [writtenForm, conceal, isCovered, Value.table.injEq]
    exact redactEntries_hides_iff hr hxs
  | .list items, w, h => by
    rw [redactValue] at h
    obtain ⟨xs, hxs, rfl⟩ := Option.map_eq_some_iff.mp h
    rw [writtenForm, conceal, isCovered, Value.list.injEq]
    exact redactItems_hides_iff hr hxs
  | .text _, w, h | .location _, w, h => by
    rw [redactValue] at h
    obtain rfl := Option.some.inj h
    exact iff_of_true rfl rfl
  | .tuple _, w, h | .client _, w, h | .host _, w, h | .null, w, h | .bool _, w, h | .int _, w, h
  | .float _, w, h | .octets _, w, h | .unit _, w, h => by
    obtain rfl := Option.some.inj h
    exact writtenForm_eq_conceal_iff hr _

theorem redactItem_hides_iff (hr : r.enabled.isTrue) : ∀ {v w : Value},
    r.redactItem v = some w → (w.writtenForm = r.conceal v ↔ r.isCoveredItem v)
  | .table es, w, h => by
    rw [redactItem] at h
    obtain ⟨xs, hxs, rfl⟩ := Option.map_eq_some_iff.mp h
    rw [writtenForm, conceal, isCoveredItem, Value.table.injEq]
    exact redactEntries_hides_iff hr hxs
  | .text _, w, h => by
    rw [redactItem] at h
    obtain rfl := Option.some.inj h
    exact iff_of_true rfl rfl
  | .list _, w, h | .tuple _, w, h | .location _, w, h | .client _, w, h | .host _, w, h
  | .null, w, h | .bool _, w, h | .int _, w, h | .float _, w, h | .octets _, w, h
  | .unit _, w, h => by
    -- What is no table or text stays as it is, so it has to be plain already.
    obtain rfl := Option.some.inj h
    exact writtenForm_eq_conceal_iff hr _

theorem redactItems_hides_iff (hr : r.enabled.isTrue) : ∀ {items ws : List Value},
    r.redactItems items = some ws →
      (writtenItems ws = r.concealItems items ↔ r.itemsAreCovered items)
  | [], ws, h => by
    rw [redactItems] at h
    obtain rfl := Option.some.inj h
    exact iff_of_true rfl rfl
  | v :: items, ws, h => by
    obtain ⟨w, zs, hw, hzs, rfl⟩ := redactItems_eq_cons h
    rw [writtenItems, concealItems, itemsAreCovered, List.cons.injEq, Bool.and_eq_true,
      redactItem_hides_iff hr hw, redactItems_hides_iff hr hzs]

theorem redactEntries_hides_iff (hr : r.enabled.isTrue) : ∀ {es ws : List (Value × Value)},
    r.redactEntries es = some ws →
      (writtenEntries ws = r.concealEntries es ↔ r.entriesAreCovered es)
  | [], ws, h => by
    rw [redactEntries] at h
    obtain rfl := Option.some.inj h
    exact iff_of_true rfl rfl
  | (k, v) :: es, ws, h => by
    obtain ⟨w, zs, hw, hzs, rfl⟩ := redactEntries_eq_cons h
    rw [writtenEntries, concealEntries, entriesAreCovered, List.cons.injEq, Prod.mk.injEq,
      Bool.and_eq_true, redactEntries_hides_iff hr hzs]
    obtain ⟨b, hb, _⟩ := Option.bind_eq_some_iff.mp hw
    rw [shown_eq hb] at hw
    split at hw
    · rename_i hk
      obtain rfl := Option.some.inj hw
      simp only [hk, if_true, writtenForm, Bool.true_or, true_and]
    · rename_i hk
      simp only [hk, Bool.false_eq_true, if_false, Bool.false_or, true_and,
        redactValue_hides_iff hr hw]

end

theorem keys_redactEntries {es ws : List (Value × Value)} (h : r.redactEntries es = some ws) :
    ws.map Prod.fst = es.map Prod.fst := by
  rw [redactEntries_eq_some_iff] at h
  induction h with
  | nil => rfl
  | cons hef _ ih => rw [List.map_cons, List.map_cons, hef.1, ih]

theorem keys_concealEntries (r : Redactor) (es : List (Value × Value)) :
    (r.concealEntries es).map Prod.fst = es.map Prod.fst := by
  induction es with
  | nil => rfl
  | cons e es ih => rw [concealEntries, List.map_cons, List.map_cons, ih]

end Redactor

theorem Value.keys_writtenEntries (es : List (Value × Value)) :
    (writtenEntries es).map Prod.fst = es.map Prod.fst := by
  induction es with
  | nil => rfl
  | cons e es ih => rw [writtenEntries, List.map_cons, List.map_cons, ih]

theorem Entry.all_isContextKey_congr {xs ys : List (Value × Value)}
    (h : xs.map Prod.fst = ys.map Prod.fst) (hy : ys.all (isContextKey ·.1)) :
    xs.all (isContextKey ·.1) := by
  have hx : (xs.map Prod.fst).all isContextKey = true := by
    rw [h, List.all_map]
    exact hy
  rwa [List.all_map] at hx

namespace Logger

variable {l : Logger} {now : Int} {context : List (Value × Value)}

theorem line_eq_write? {level : Level} {message : Value} {entry : List (Value × Value)}
    (h : l.entry now level message context = .ok entry) :
    (l.line now level message context).toOption = JsonText.write? (.table entry) := by
  rw [line, h]
  dsimp only
  cases JsonText.write? (.table entry) <;> rfl

/-- An entry is written as if all of its context had been hidden exactly if redaction covers the
context. -/
theorem entry_hides_iff (level : Level) (message : Value) (hr : l.redactor.enabled.isTrue)
    (hk : context.all (Entry.isContextKey ·.1)) (hn : (context.map Prod.fst).Nodup)
    (ht : entriesHaveTextKeys context) (hs : Calendar.hasStamp (now / 4)) :
    ∃ entry, l.entry now level message context = .ok entry ∧
      (l.line now level message context).toOption =
        JsonText.write? (.table (writtenEntries entry)) ∧
      (writtenEntries entry = Entry.extend
          (writtenEntries (Entry.base level l.component l.session l.started now message))
          (l.redactor.concealEntries context) ↔
        l.redactor.entriesAreCovered context) := by
  obtain ⟨shown, hshown⟩ := Option.isSome_iff_exists.mp (l.redactor.redactEntries_isSome ht)
  let base := Entry.base level l.component l.session l.started now message
  have hentry : l.entry now level message context = .ok (Entry.extend base shown) := by
    rw [entry, if_pos hk, hshown]
    dsimp only
    rw [hs]
    rfl
  refine ⟨_, hentry, ?_, ?_⟩
  · rw [line_eq_write? hentry]
    exact (JsonText.write?_writtenForm _).symm
  · rw [Entry.writtenEntries_extend, ← Redactor.redactEntries_hides_iff hr hshown]
    constructor
    · -- The keys differ from each other, so no member of the call is overwritten by a later one.
      intro h
      have hkeys : (writtenEntries shown).map Prod.fst = context.map Prod.fst := by
        rw [keys_writtenEntries, Redactor.keys_redactEntries hshown]
      apply Entry.eq_of_extend_eq _ _ _ _ h
      · exact Entry.all_isContextKey_congr hkeys hk
      · exact Entry.all_isContextKey_congr (Redactor.keys_concealEntries _ _) hk
      · rwa [hkeys]
      · rw [hkeys, Redactor.keys_concealEntries]
    · intro h
      rw [h]

def streaming : Logger :=
  ⟨"c", "s", 0, .make (.bool true) [], .null, .int 1, .bool false, none, some (.stream "out")⟩

def streamingBase : List (Value × Value) :=
  Entry.base .info streaming.component streaming.session streaming.started 0 (.text "m")

def covered : List (Value × Value) :=
  [(.text "file", .location (.posix ⟨.root, ["home", "alice", "x"]⟩)),
    (.text "Token", .client ⟨"\\home\\alice"⟩),
    (.text "more", .list [.text "C:\\alice\\y", .table [(.text "key", .tuple [])]])]

theorem entry_hides_covered : ∃ entry, streaming.entry 0 .info (.text "m") covered = .ok entry ∧
    writtenEntries entry = Entry.extend (writtenEntries streamingBase)
      (streaming.redactor.concealEntries covered) := by
  have hk : covered.all (Entry.isContextKey ·.1) := by
    decide +kernel
  have hn : (covered.map Prod.fst).Nodup := by
    simp [covered, Text.ofString, CodePoint.ofChar]
  have hs : Calendar.hasStamp ((0 : Int) / 4) := by
    decide +kernel
  obtain ⟨entry, hentry, _, hiff⟩ :=
    entry_hides_iff (l := streaming) .info (.text "m") rfl hk hn rfl hs
  refine ⟨entry, hentry, hiff.mpr ?_⟩
  decide +kernel

def leaking : List (Value × Value) := [(.text "source", .client ⟨"\\home\\alice\\x"⟩)]

theorem entry_shows_client_path :
    ∃ entry, streaming.entry 0 .info (.text "m") leaking = .ok entry ∧
      writtenEntries entry ≠ Entry.extend (writtenEntries streamingBase)
        (streaming.redactor.concealEntries leaking) := by
  refine ⟨Entry.extend streamingBase leaking, rfl, ?_⟩
  intro h
  have hw : Entry.member? "source" (writtenEntries (Entry.extend streamingBase leaking)) =
      some (.text "\\home\\alice\\x") := by
    rfl
  have hc : Entry.member? "source" (Entry.extend (writtenEntries streamingBase)
      (streaming.redactor.concealEntries leaking)) = some (.text "[REDACTED]/x") := by
    rfl
  rw [h, hc] at hw
  exact absurd (Value.text.inj (Option.some.inj hw)) (by decide)

end Logger

end DriveBridge
