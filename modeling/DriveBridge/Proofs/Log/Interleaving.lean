import DriveBridge.Proofs.Log.Reopening
import DriveBridge.Proofs.Session.Soundness

namespace DriveBridge.Interleaving

structure Scene where
  world : World
  loggers : List Logger

variable {Made : LoggerOptions → Prop} {Else : Disk → Disk → Prop}

inductive Turn (Made : LoggerOptions → Prop) (Else : Disk → Disk → Prop) : Scene → Scene → Prop
  | opened {w w' : World} {ls : List Logger} {o : LoggerOptions} {l : Logger} (ho : Made o)
      (h : o.make w = (w', .ok l)) : Turn Made Else ⟨w, ls⟩ ⟨w', ls ++ [l]⟩
  | unopened {w w' : World} {ls : List Logger} {o : LoggerOptions} {cause : LogError}
      (ho : Made o) (h : o.make w = (w', .error cause)) : Turn Made Else ⟨w, ls⟩ ⟨w', ls⟩
  | called {w w' : World} {ls : List Logger} {i : Nat} {l l' : Logger} {level : Level}
      {message : Value} {context : List (Value × Value)} {failure : Option LogError}
      (hl : ls[i]? = some l) (h : l.log level message context w = (w', l', failure)) :
      Turn Made Else ⟨w, ls⟩ ⟨w', ls.set i l'⟩
  | limited {w : World} {ls : List Logger} {i : Nat} {l : Logger} (hl : ls[i]? = some l)
      (limit : Value) : Turn Made Else ⟨w, ls⟩ ⟨w, ls.set i { l with limit := limit }⟩
  | closed {w : World} {ls : List Logger} {i : Nat} {l : Logger} (hl : ls[i]? = some l) :
      Turn Made Else ⟨w, ls⟩ ⟨w, ls.set i l.close⟩
  | elsewhere {w w' : World} {ls : List Logger} (hd : w'.disk.IsSound)
      (h : Else w.disk w'.disk) : Turn Made Else ⟨w, ls⟩ ⟨w', ls⟩

inductive Run (Made : LoggerOptions → Prop) (Else : Disk → Disk → Prop) : List Scene → Scene → Prop
  | start {w : World} (hd : w.disk.IsSound) : Run Made Else [] ⟨w, []⟩
  | turn {past : List Scene} {s t : Scene} (hr : Run Made Else past s) (h : Turn Made Else s t) :
      Run Made Else (s :: past) t

variable {past : List Scene} {s t : Scene}

theorem Run.forall_loggers {P : Logger → Prop}
    (hmade : ∀ {o : LoggerOptions} {w w' : World} {l : Logger}, Made o →
      o.make w = (w', .ok l) → P l)
    (hkept : ∀ {l : Logger} (limit : Value) (sink : Option Sink), P l →
      P { l with limit := limit, sink := sink })
    (h : Run Made Else past s) : ∀ l ∈ s.loggers, P l := by
  induction h with
  | start hd =>
    intro l hm
    cases hm
  | turn _ h ih =>
    cases h with
    | opened ho h =>
      intro l hm
      rcases List.mem_append.mp hm with hm | hm
      · exact ih l hm
      · obtain rfl := List.mem_singleton.mp hm
        exact hmade ho h
    | unopened ho h => exact ih
    | @called w w' ls i l l' level message context failure hl h =>
      apply forall_mem_set ih
      rw [Logger.log_eq_with h]
      exact hkept l.limit l'.sink (ih l (List.mem_of_getElem? hl))
    | @limited w ls i l hl limit =>
      exact forall_mem_set ih i (hkept limit l.sink (ih l (List.mem_of_getElem? hl)))
    | @closed w ls i l hl =>
      exact forall_mem_set ih i (hkept l.limit none (ih l (List.mem_of_getElem? hl)))
    | elsewhere hd h => exact ih

theorem Turn.exists_later (h : Turn Made Else s t) {j : Nat} {m : Logger}
    (hm : s.loggers[j]? = some m) :
    ∃ limit sink, t.loggers[j]? = some { m with limit := limit, sink := sink } := by
  have hset {i : Nat} {l : Logger} (hl : s.loggers[i]? = some l) (limit : Value)
      (sink : Option Sink) : ∃ limit' sink',
      (s.loggers.set i { l with limit := limit, sink := sink })[j]? =
        some { m with limit := limit', sink := sink' } := by
    by_cases hij : i = j
    · obtain rfl := hij
      obtain rfl := Option.some.inj (hl.symm.trans hm)
      exact ⟨limit, sink, List.getElem?_set_self (List.getElem?_eq_some_iff.mp hl).1⟩
    · exact ⟨m.limit, m.sink, by rw [List.getElem?_set_ne hij, hm]⟩
  cases h with
  | opened ho h =>
    refine ⟨m.limit, m.sink, ?_⟩
    rw [List.getElem?_append_left (List.getElem?_eq_some_iff.mp hm).1, hm]
  | unopened ho h => exact ⟨m.limit, m.sink, hm⟩
  | @called w w' ls i l l' level message context failure hl h =>
    rw [Logger.log_eq_with h]
    exact hset hl l.limit l'.sink
  | @limited w ls i l hl limit => exact hset hl limit l.sink
  | @closed w ls i l hl => exact hset hl l.limit none
  | elsewhere hd h => exact ⟨m.limit, m.sink, hm⟩

theorem Run.isSound (h : Run Made Else past s) :
    s.world.disk.IsSound ∧ ∀ l ∈ s.loggers, l.IsNamed := by
  induction h with
  | start hd =>
    refine ⟨hd, ?_⟩
    intro l hm
    cases hm
  | turn _ h ih =>
    obtain ⟨hd, hls⟩ := ih
    cases h with
    | opened ho h =>
      obtain ⟨hd', hnamed⟩ := make_isSound hd h
      refine ⟨hd', ?_⟩
      intro l hm
      rcases List.mem_append.mp hm with hm | hm
      · exact hls l hm
      · obtain rfl := List.mem_singleton.mp hm
        exact hnamed l rfl
    | unopened ho h => exact ⟨(make_isSound hd h).1, hls⟩
    | called hl h =>
      obtain ⟨hd', hnamed⟩ := Logger.log_isSound hd (hls _ (List.mem_of_getElem? hl)) h
      exact ⟨hd', forall_mem_set hls _ hnamed⟩
    | @limited w ls i l hl limit =>
      have hnamed : Logger.IsNamed { l with limit := limit } := hls l (List.mem_of_getElem? hl)
      exact ⟨hd, forall_mem_set hls i hnamed⟩
    | @closed w ls i l hl =>
      have hnamed : l.close.IsNamed := hls l (List.mem_of_getElem? hl)
      exact ⟨hd, forall_mem_set hls i hnamed⟩
    | elsewhere hd' h => exact ⟨hd', hls⟩

end DriveBridge.Interleaving
