import DriveBridge.Proofs.Calendar.Stamps
import DriveBridge.Proofs.Log.ReadBack
import DriveBridge.Proofs.Numeral.Quarters

namespace DriveBridge

open Calendar

namespace Logger

open Entry

variable {now : Int}

theorem times_of_entry {l : Logger} {level : Level} {message : Value}
    {context entry : List (Value × Value)} (h : l.entry now level message context = .ok entry) :
    (.text "iso_timestamp" ∉ context.map Prod.fst →
      member? "iso_timestamp" entry = some (.text (stamp (now / 4)))) ∧
    (.text "timestamp" ∉ context.map Prod.fst →
      member? "timestamp" entry = some (.float (.ofQuarters now))) := by
  obtain ⟨hkeys, _, shown, hshown, rfl⟩ := entry_eq_ok h
  have hsame := Redactor.keys_redactEntries hshown
  have hshownKeys := all_isContextKey_congr hsame hkeys
  rw [← hsame]
  constructor
  · intro hnot
    rw [member?_extend_of_not_mem _ hshownKeys hnot]
    rfl
  · intro hnot
    rw [member?_extend_of_not_mem _ hshownKeys hnot]
    rfl

theorem entry_ne_beyondCalendar (hstamp : hasStamp (now / 4)) (l : Logger) (level : Level)
    (message : Value) (context : List (Value × Value)) :
    l.entry now level message context ≠ .error .beyondCalendar := by
  simp only [Logger.entry, hstamp]
  split
  · split <;> simp
  · simp

/-- From 1970 to the end of the year 9999 no log call is refused for its instant. An entry has the
clock for its time unless its context replaces it, and the stamp of the second that the clock is in;
and the stamp of a later entry is not below it. -/
theorem times_agree (hstart : 0 ≤ now) (hend : now / 4 < horizon) :
    (∀ (l : Logger) (level : Level) (message : Value) (context : List (Value × Value)),
      l.entry now level message context ≠ .error .beyondCalendar) ∧
    ∀ (l : Logger) (level : Level) (message : Value) (context entry : List (Value × Value)),
      l.entry now level message context = .ok entry →
      (.text "timestamp" ∉ context.map Prod.fst →
        ∃ x, member? "timestamp" entry = some (.float x) ∧ x.IsRatio now 4) ∧
      (.text "iso_timestamp" ∉ context.map Prod.fst →
        ∃ t, member? "iso_timestamp" entry = some (.text t) ∧ Shows t (now / 4) ∧
          ∀ (l' : Logger) (later : Int) (level' : Level) (message' : Value)
            (context' entry' : List (Value × Value)), now ≤ later → later / 4 < horizon →
            l'.entry later level' message' context' = .ok entry' →
            .text "iso_timestamp" ∉ context'.map Prod.fst →
            ∃ t', member? "iso_timestamp" entry' = some (.text t') ∧ t.isUpTo t') := by
  have hseconds : 0 ≤ now / 4 := by omega
  refine ⟨entry_ne_beyondCalendar (hasStamp_of_lt hseconds hend), ?_⟩
  intro l level message context entry h
  obtain ⟨hiso, htime⟩ := times_of_entry h
  constructor
  · intro hnot
    have hhorizon : horizon = 253402300800 := by decide
    refine ⟨_, htime hnot, Binary64.isRatio_ofQuarters ?_⟩
    rw [show Nat.pow 2 53 = 9007199254740992 from rfl]
    omega
  · intro hnot
    refine ⟨_, hiso hnot, shows_stamp hseconds hend, ?_⟩
    intro l' later level' message' context' entry' hle hlater h' hnot'
    exact ⟨_, (times_of_entry h').1 hnot', isUpTo_stamp hseconds (by omega) hlater⟩

end Logger

namespace LeapDay

def last : Int := 3807475199

def logger : Logger :=
  ⟨"c", "s", 0, ⟨.bool true, [], []⟩, .null, .int 1, .bool true, none, some (.stream "out")⟩

def entryAt (now : Int) : List (Value × Value) :=
  Entry.base .info "c" "s" 0 now (.text "m")

theorem times_of_last : 0 ≤ last ∧ last / 4 < horizon ∧
    logger.entry last .info (.text "m") [] = .ok (entryAt last) ∧
    (∃ x, Entry.member? "timestamp" (entryAt last) = some (.float x) ∧ x.IsRatio last 4) ∧
    ∃ t, Entry.member? "iso_timestamp" (entryAt last) = some (.text t) ∧ Shows t 951868799 ∧
      ∃ t', Entry.member? "iso_timestamp" (entryAt (last + 1)) = some (.text t') ∧
        t.isUpTo t' := by
  have hstart : 0 ≤ last := by decide
  have hend : last / 4 < horizon := by decide
  have hlater : (last + 1) / 4 < horizon := by decide
  have hentry : logger.entry last .info (.text "m") [] = .ok (entryAt last) := rfl
  have hnext : logger.entry (last + 1) .info (.text "m") [] = .ok (entryAt (last + 1)) := rfl
  obtain ⟨htime, hiso⟩ :=
    (Logger.times_agree hstart hend).2 logger .info (.text "m") [] _ hentry
  obtain ⟨t, ht, hshows, hlast⟩ := hiso List.not_mem_nil
  exact ⟨hstart, hend, hentry, htime List.not_mem_nil, t, ht, hshows,
    hlast logger (last + 1) .info (.text "m") [] _ (by decide) hlater hnext List.not_mem_nil⟩

end LeapDay

end DriveBridge
