import DriveBridge.Proofs.Log.Calls
import DriveBridge.Proofs.Log.Generations
import DriveBridge.Proofs.Session.Changes

namespace DriveBridge

open Location Rotation

namespace Disk

theorem isSound_openWritten {d : Disk} (hd : d.IsSound) (t : Text) :
    (d.openWritten t).1.IsSound := by
  have hmade (t : Text) :
      (if t = [] then (d, none) else d.makeWritten t : Disk × Option Refusal).1.IsSound := by
    split
    · exact hd
    · exact isSound_makeWritten hd t
  exact (openAfter_spec (hmade _) rfl).1

end Disk

variable {w w' : World} {l l' : Logger}

namespace Logger

def IsNamed (l : Logger) : Prop := ∀ p, l.path = some p → IsName p.fileName

theorem makeRoom_isSound {d d' : Disk} {failure : Option LogError} (hd : d.IsSound)
    (hl : l.IsNamed) (h : l.makeRoom d = (d', l', failure)) : d'.IsSound ∧ l'.IsNamed := by
  rcases makeRoom_cases h with ⟨rfl, rfl | ⟨_, rfl⟩⟩ | ⟨p, keep, _, hp, _, _, h⟩
  · exact ⟨hd, hl⟩
  · exact ⟨hd, hl⟩
  · have hs := isSound_rotate (hl p hp) hd keep
    rcases h with ⟨id, ho, rfl⟩ | ⟨_, _, rfl, rfl⟩
    · exact ⟨(Disk.openFile_spec hs ho).1, hl⟩
    · exact ⟨hs, hl⟩

theorem log_isSound (hd : w.disk.IsSound) (hl : l.IsNamed) {level : Level} {message : Value}
    {context : List (Value × Value)} {failure : Option LogError}
    (h : l.log level message context w = (w', l', failure)) : w'.disk.IsSound ∧ l'.IsNamed := by
  rcases log_cases h with ⟨hw, rfl⟩ | ⟨d, room, hm, hw⟩
  · rw [hw]
    exact ⟨hd, hl⟩
  · obtain ⟨hs, hn⟩ := makeRoom_isSound hd hl hm
    rcases hw with hw | ⟨id, octets, _, hw⟩
    · rw [hw]
      exact ⟨hs, hn⟩
    · rw [hw]
      exact ⟨hs.append id octets, hn⟩

end Logger

theorem make_isSound (hd : w.disk.IsSound) {o : LoggerOptions} {outcome : Except LogError Logger}
    (h : o.make w = (w', outcome)) : w'.disk.IsSound ∧ ∀ l, outcome = .ok l → l.IsNamed := by
  rcases LoggerOptions.make_cases h with ⟨hw, hl⟩ | ⟨p, opened, _, hb, hl⟩
  · refine ⟨hw ▸ hd, ?_⟩
    intro l hok q hq
    rw [(hl l hok).1] at hq
    cases hq
  · obtain ⟨hs, _, hopen⟩ := Disk.openAfter_spec (Disk.makeDirectories_spec hd p.parent).1 hb
    refine ⟨hs, ?_⟩
    intro l hok q hq
    obtain ⟨id, hid, hpath, _⟩ := hl l hok
    obtain rfl := Option.some.inj (hpath.symm.trans hq)
    exact (hopen id hid).2

theorem forall_mem_set {P : Logger → Prop} {ls : List Logger} (h : ∀ l ∈ ls, P l) (i : Nat)
    {new : Logger} (hnew : P new) : ∀ l ∈ ls.set i new, P l := by
  intro l hm
  rcases List.mem_or_eq_of_mem_set hm with hm | rfl
  · exact h l hm
  · exact hnew

namespace Session

variable {s t : Session}

structure IsSound (s : Session) : Prop where
  disk : s.world.disk.IsSound
  loggers : ∀ l ∈ s.loggers, l.IsNamed

theorem isSound_start (now : Int) (freshId : Text) (env : Environment) :
    (start now freshId env).IsSound := by
  constructor
  · exact Disk.isSound_empty
  · intro l hl
    cases hl

theorem DiskChange.isSound {d e : Disk} (h : DiskChange d e) (hd : d.IsSound) : e.IsSound := by
  cases h with
  | same => exact hd
  | made t => exact Disk.isSound_makeWritten hd t
  | opened t => exact Disk.isSound_openWritten hd t
  | written t id octets => exact (Disk.isSound_openWritten hd t).overwrite id octets
  | removed hu => exact Disk.isSound_unlink hd hu

theorem Change.isSound (h : s.Change t) (hs : s.IsSound) : t.IsSound := by
  cases h with
  | around hw hl => exact ⟨hw.isSound hs.disk, hl ▸ hs.loggers⟩
  | opened hw hl =>
    obtain ⟨hd, hnamed⟩ := make_isSound hs.disk hw
    refine ⟨hd, ?_⟩
    rw [hl]
    intro l' hm
    rcases List.mem_append.mp hm with hm | hm
    · exact hs.loggers l' hm
    · obtain rfl := List.mem_singleton.mp hm
      exact hnamed _ rfl
  | notOpened hw hl => exact ⟨(make_isSound hs.disk hw).1, hl ▸ hs.loggers⟩
  | logged h hw hl =>
    obtain ⟨hd, hnamed⟩ := Logger.log_isSound hs.disk (hs.loggers _ (List.mem_of_getElem? h)) hw
    exact ⟨hd, hl ▸ forall_mem_set hs.loggers _ hnamed⟩
  | @limited _ l limit h hw hl =>
    have hnamed : Logger.IsNamed { l with limit := limit } :=
      hs.loggers l (List.mem_of_getElem? h)
    exact ⟨hw ▸ hs.disk, hl ▸ forall_mem_set hs.loggers _ hnamed⟩
  | @closed _ l h hw hl =>
    have hnamed : l.close.IsNamed := hs.loggers l (List.mem_of_getElem? h)
    exact ⟨hw ▸ hs.disk, hl ▸ forall_mem_set hs.loggers _ hnamed⟩

theorem IsSound.closeLogger (hs : s.IsSound) (id : LoggerId) : (s.closeLogger id).IsSound :=
  (keeps_closeLogger s id).change.isSound hs

theorem IsSound.step (hs : s.IsSound) {st : Step} (h : st.isSingle) : (s.step st).1.IsSound := by
  obtain hk | ⟨t, name, a, id, hk, _, ht⟩ := step_change h
  · exact hk.change.isSound hs
  · have hsound := hk.change.isSound hs
    rw [ht]
    exact ⟨hsound.disk, hsound.loggers⟩

theorem Reaches.isSound {past : List (Session × Step)} (h : s.Reaches past t) (hs : s.IsSound) :
    t.IsSound := by
  induction h with
  | refl => exact hs
  | step _ hst ih => exact ih.step hst
  | close _ id ih => exact ih.closeLogger id

end Session

end DriveBridge
