import DriveBridge.Proofs.Json.Printable
import DriveBridge.Proofs.Log.Calls
import DriveBridge.Proofs.Text.Pieces
import Mathlib.Data.List.Forall2

namespace DriveBridge

open Rotation

namespace Text

def isNewline (c : CodePoint) : Bool := c == CodePoint.newline

theorem split_lines {lines : List Text} (h : ∀ line ∈ lines, line.IsPrintable) :
    split isNewline (lines.flatMap (· ++ [CodePoint.newline])) = lines ++ [[]] := by
  induction lines with
  | nil => rfl
  | cons line lines ih =>
    rw [List.forall_mem_cons] at h
    have hline : ∀ c ∈ line, isNewline c = false := by
      rintro c hc
      rw [isNewline, beq_eq_false_iff_ne]
      rintro rfl
      exact h.1.newline_not_mem hc
    rw [List.flatMap_cons, List.append_assoc, List.singleton_append,
      split_append_cons _ hline (by decide), ih h.2, List.cons_append]

end Text

namespace World

theorem lookup_appendTo (name t other : Text) (streams : List (Text × Text)) :
    ((appendTo name t streams).lookup other).getD [] =
      (streams.lookup other).getD [] ++ if name = other then t else [] := by
  induction streams with
  | nil =>
    simp only [appendTo, Disk.lookup_cons_eq]
    split <;> rfl
  | cons stream streams ih =>
    obtain ⟨key, u⟩ := stream
    by_cases hk : key = name
    · by_cases ho : key = other <;> simp [appendTo, Disk.lookup_cons_eq, ← hk, ho]
    · by_cases ho : key = other
      · have hn : name ≠ other := fun h => hk (ho.trans h.symm)
        simp [appendTo, ho, hn, Ne.symm hn]
      · simp [appendTo, Disk.lookup_cons_eq, hk, ho, ih]

theorem stream_feed (w : World) (name t other : Text) :
    (w.feed name t).stream other = w.stream other ++ if name = other then t else [] :=
  lookup_appendTo name t other w.streams

end World

namespace Disk

variable {d e : Disk} {p old new : Location} {id : FileId}

theorem contents_rename (h : d.rename old new = .ok e) : e.contents = d.contents := by
  obtain ⟨source, _, h⟩ := bind_eq_ok h
  obtain ⟨target, _, h⟩ := bind_eq_ok h
  split at h
  · cases h
  · cases h
  · cases h
  split at h
  · rw [Except.ok.inj h]
  split at h
  · cases h
  split at h
  · rw [← Except.ok.inj h]
    rfl
  · cases h

theorem content_openFile (h : d.openFile p = .ok (e, id)) (file : FileId) :
    e.content file = d.content file := by
  obtain ⟨_, ⟨_, rfl⟩ | ⟨_, rfl, _⟩⟩ := openFile_eq_ok h
  · rfl
  · exact content_create d p.place file

end Disk

namespace Rotation

theorem contents_shift (p : Location) (i : Nat) (d : Disk) :
    (shift p i d).1.contents = d.contents := by
  induction i generalizing d with
  | zero => rfl
  | succ i ih =>
    rw [shift]
    split
    · rfl
    · exact ih d
    split
    · rfl
    · rename_i moved hr
      rw [ih moved, Disk.contents_rename hr]

theorem contents_rotate (p : Location) (keep : Int) (d : Disk) :
    (rotate p keep d).1.contents = d.contents := by
  have hs := contents_shift p (keep - 1).toNat d
  rw [rotate]
  split <;> rename_i e _ he <;> rw [he] at hs
  · exact hs
  split
  · exact hs
  · rename_i hr
    rw [Disk.contents_rename hr, hs]

theorem content_rotate (p : Location) (keep : Int) (d : Disk) (file : FileId) :
    (rotate p keep d).1.content file = d.content file := by
  rw [Disk.content, contents_rotate, Disk.content]

end Rotation

namespace Logger

variable {w w' : World} {l l' : Logger}

theorem content_makeRoom {d d' : Disk} {failure : Option LogError}
    (h : l.makeRoom d = (d', l', failure)) (file : FileId) :
    d'.content file = d.content file := by
  rcases makeRoom_cases h with ⟨rfl, _⟩ | ⟨p, keep, _, _, _, _, ⟨id, ho, _⟩ | ⟨_, _, rfl, _⟩⟩
  · rfl
  · rw [Disk.content_openFile ho, content_rotate]
  · exact content_rotate p keep d file

theorem sink_makeRoom {d d' : Disk} {failure : Option LogError}
    (h : l.makeRoom d = (d', l', failure)) :
    l'.sink = l.sink ∨ l'.sink = some .lost ∨ l.path.isSome ∧ ∃ id, l'.sink = some (.file id) := by
  rcases makeRoom_cases h with
    ⟨_, rfl | ⟨_, rfl⟩⟩ | ⟨p, _, _, hp, _, _, ⟨id, _, rfl⟩ | ⟨_, _, _, rfl⟩⟩
  · exact .inl rfl
  · exact .inr (.inl rfl)
  · exact .inr (.inr ⟨by rw [hp]; rfl, id, rfl⟩)
  · exact .inr (.inl rfl)

/-- A text goes to the console, if that is on, and to what the logger has open, and nowhere else.
A rotation on the way may have opened the log file anew. -/
structure Sends (l : Logger) (w : World) (t : Text) (w' : World) (l' : Logger) : Prop where
  sink : l'.sink = l.sink ∨ l.sink.isSome ∧ l.path.isSome ∧ ∃ id, l'.sink = some (.file id)
  console : w'.console = w.console ++ if l.console.isTrue then t else []
  streams : ∀ name,
    w'.stream name = w.stream name ++ if l'.sink = some (.stream name) then t else []
  disk : ∃ d : Disk, (∀ file, d.content file = w.disk.content file) ∧
    w'.disk = match l'.sink with
      | some (.file id) => d.append id (Utf8.encode t)
      | _ => d

theorem console_print (l : Logger) (t : Text) (w : World) :
    (if l.console.isTrue then w.print t else w).console =
      w.console ++ if l.console.isTrue then t else [] := by
  split
  · rfl
  · rw [List.append_nil]

theorem stream_print (l : Logger) (t : Text) (w : World) (name : Text) :
    (if l.console.isTrue then w.print t else w).stream name = w.stream name := by
  split <;> rfl

theorem put_eq_none {t : Text} (h : l.put t w = (w', none)) :
    l.sink ≠ some .lost ∧ w'.console = w.console ∧
    (∀ name, w'.stream name = w.stream name ++ if l.sink = some (.stream name) then t else []) ∧
    w'.disk = match l.sink with
      | some (.file id) => w.disk.append id (Utf8.encode t)
      | _ => w.disk := by
  rw [put] at h
  split at h
  · rename_i hs
    obtain ⟨rfl, _⟩ := h
    simp [hs]
  · rename_i name hs
    obtain ⟨rfl, _⟩ := h
    simp only [hs, ne_eq, Option.some.injEq, reduceCtorEq, not_false_eq_true, Sink.stream.injEq,
      World.stream_feed, implies_true, true_and]
    exact ⟨rfl, rfl⟩
  · rename_i id hs
    obtain ⟨rfl, _⟩ := h
    simp only [hs, ne_eq, Option.some.injEq, reduceCtorEq, not_false_eq_true, if_false,
      List.append_nil, and_true, true_and]
    exact fun _ => rfl
  · cases h

theorem deliver_sends {line : Text} (h : l.deliver line w = (w', l', none)) :
    l.Sends w (line ++ [CodePoint.newline]) w' l' := by
  rw [deliver] at h
  dsimp only at h
  generalize line ++ [CodePoint.newline] = t at h ⊢
  have hconsole := l.console_print t w
  have hstream := l.stream_print t w
  have hdisk := l.disk_console t w
  generalize (if l.console.isTrue then w.print t else w) = printed at h hconsole hstream hdisk
  split at h
  · rename_i hs
    obtain ⟨rfl, rfl, _⟩ := h
    rw [Option.isNone_iff_eq_none] at hs
    refine ⟨.inl rfl, hconsole, ?_, w.disk, fun _ => rfl, ?_⟩
    · intro name
      simp [hs, hstream]
    · rw [hs, hdisk]
  rename_i hs
  rw [Option.isNone_iff_eq_none] at hs
  split at h
  · cases h
  rename_i d opened hm
  simp only [Prod.mk.injEq] at h
  obtain ⟨rfl, rfl, hput⟩ := h
  rw [hdisk] at hm
  obtain ⟨hlost, hc, hn, hd⟩ := put_eq_none (Prod.ext rfl hput)
  refine ⟨?_, hc.trans hconsole, ?_, d, content_makeRoom hm, hd⟩
  · rcases sink_makeRoom hm with h | h | ⟨hp, id, h⟩
    · exact .inl h
    · exact absurd h hlost
    · exact .inr ⟨Option.isSome_iff_ne_none.mpr hs, hp, id, h⟩
  · intro name
    rw [hn, ← hstream name]
    rfl

theorem exists_entry_of_line {now : Int} {level : Level} {message : Value}
    {context : List (Value × Value)} {line : Text}
    (h : l.line now level message context = .ok line) :
    ∃ entry, l.entry now level message context = .ok entry ∧
      JsonText.write? (.table entry) = some line := by
  rw [Logger.line] at h
  split at h
  · rename_i entry he
    split at h
    · rename_i written hw
      rw [← Except.ok.inj h]
      exact ⟨entry, he, hw⟩
    · cases h
  · cases h

theorem exists_line_of_log {level : Level} {message : Value} {context : List (Value × Value)}
    (h : l.log level message context w = (w', l', none)) :
    ∃ line, l.line w.now level message context = .ok line ∧ l.deliver line w = (w', l', none) := by
  rw [log] at h
  split at h
  · rename_i line hline
    exact ⟨line, hline, h⟩
  · cases h

theorem exists_entry_of_log {level : Level} {message : Value} {context : List (Value × Value)}
    (h : l.log level message context w = (w', l', none)) :
    ∃ entry line, l.entry w.now level message context = .ok entry ∧
      JsonText.write? (.table entry) = some line ∧ l.deliver line w = (w', l', none) := by
  obtain ⟨line, hline, hd⟩ := exists_line_of_log h
  obtain ⟨entry, hentry, hwrite⟩ := exists_entry_of_line hline
  exact ⟨entry, line, hentry, hwrite, hd⟩

structure IsAtStream (l : Logger) (name : Text) : Prop where
  path : l.path = none
  sink : l.sink = some (.stream name)

namespace IsAtStream

variable {name : Text}

theorem deliver (hl : l.IsAtStream name) (line : Text) (w : World) :
    (l.deliver line w).2 = (l, none) := by
  have hm (d : Disk) : l.makeRoom d = (d, l, none) := by
    rw [makeRoom, hl.path]
  rw [Logger.deliver, hl.sink]
  dsimp only [Option.isNone_some]
  rw [if_neg Bool.false_ne_true, hm]
  dsimp only
  rw [put, hl.sink]

theorem stream_deliver (hl : l.IsAtStream name) (line : Text) (w : World) :
    (l.deliver line w).1.stream name = w.stream name ++ (line ++ [CodePoint.newline]) := by
  have hd : l.deliver line w = ((l.deliver line w).1, l, none) :=
    Prod.ext rfl (hl.deliver line w)
  have hs := (deliver_sends hd).streams name
  rwa [hl.sink, if_pos rfl] at hs

theorem log_of_line (hl : l.IsAtStream name) {level : Level} {message : Value}
    {context : List (Value × Value)} {line : Text}
    (hline : l.line w.now level message context = .ok line) :
    l.log level message context w = ((l.deliver line w).1, l, none) := by
  rw [Logger.log, hline]
  exact Prod.ext rfl (hl.deliver line w)

theorem log_refused (hl : l.IsAtStream name) {level : Level} {message : Value}
    {context : List (Value × Value)} {cause : LogError}
    (h : l.log level message context w = (w', l', some cause)) : w' = w ∧ l' = l := by
  rw [log] at h
  split at h
  · rename_i line _
    have hd := hl.deliver line w
    rw [h] at hd
    cases hd
  · obtain ⟨rfl, rfl, _⟩ := h
    exact ⟨rfl, rfl⟩

theorem log (hl : l.IsAtStream name) {level : Level} {message : Value}
    {context entry : List (Value × Value)}
    (hentry : l.entry w.now level message context = .ok entry)
    (h : l.log level message context w = (w', l', none)) :
    l' = l ∧ ∃ line, JsonText.write? (.table entry) = some line ∧
      w'.stream name = w.stream name ++ (line ++ [CodePoint.newline]) := by
  obtain ⟨_, line, hmade, hwrite, hd⟩ := exists_entry_of_log h
  obtain rfl := Except.ok.inj (hmade.symm.trans hentry)
  have hsame := hl.deliver line w
  have hstream := hl.stream_deliver line w
  rw [hd] at hsame hstream
  exact ⟨(Prod.mk.inj hsame).1, line, hwrite, hstream⟩

end IsAtStream

end Logger

namespace Transcript

structure Scene where
  world : World
  logger : Logger

inductive Turn (name : Text) : Scene → List (List (Value × Value)) → Scene → Prop
  | logged {w w' : World} {l l' : Logger} {level : Level} {message : Value}
      {context entry : List (Value × Value)}
      (hentry : l.entry w.now level message context = .ok entry)
      (h : l.log level message context w = (w', l', none)) : Turn name ⟨w, l⟩ [entry] ⟨w', l'⟩
  | refused {w w' : World} {l l' : Logger} {level : Level} {message : Value}
      {context : List (Value × Value)} {cause : LogError}
      (h : l.log level message context w = (w', l', some cause)) : Turn name ⟨w, l⟩ [] ⟨w', l'⟩
  | elsewhere {w w' : World} {l : Logger} (h : w'.stream name = w.stream name) :
      Turn name ⟨w, l⟩ [] ⟨w', l⟩

inductive Run (name : Text) : Scene → List (List (Value × Value)) → Scene → Prop
  | done {s : Scene} : Run name s [] s
  | turn {s t u : Scene} {entries more : List (List (Value × Value))} (h : Turn name s entries t)
      (hr : Run name t more u) : Run name s (entries ++ more) u

variable {name : Text} {s t : Scene} {entries : List (List (Value × Value))}

def textOf (lines : List Text) : Text := lines.flatMap (· ++ [CodePoint.newline])

theorem textOf_append (lines more : List Text) :
    textOf (lines ++ more) = textOf lines ++ textOf more := List.flatMap_append

def AreWritten (entries : List (List (Value × Value))) (lines : List Text) : Prop :=
  List.Forall₂ (fun entry line => JsonText.write? (.table entry) = some line) entries lines

theorem AreWritten.isPrintable {lines : List Text} (h : AreWritten entries lines) :
    ∀ line ∈ lines, line.IsPrintable := by
  induction h with
  | nil => exact List.forall_mem_nil _
  | cons hwrite _ ih => exact List.forall_mem_cons.mpr ⟨JsonText.isPrintable_write hwrite, ih⟩

theorem turn_stream (h : Turn name s entries t) (hs : s.logger.IsAtStream name) :
    t.logger = s.logger ∧ ∃ lines, AreWritten entries lines ∧
      t.world.stream name = s.world.stream name ++ textOf lines := by
  cases h with
  | logged hentry h =>
    obtain ⟨rfl, line, hwrite, hw⟩ := hs.log hentry h
    refine ⟨rfl, [line], .cons hwrite .nil, ?_⟩
    rw [textOf, List.flatMap_singleton, hw]
  | refused h =>
    obtain ⟨rfl, rfl⟩ := hs.log_refused h
    exact ⟨rfl, [], .nil, (List.append_nil _).symm⟩
  | elsewhere h => exact ⟨rfl, [], .nil, h.trans (List.append_nil _).symm⟩

theorem run_stream (h : Run name s entries t) (hs : s.logger.IsAtStream name) :
    ∃ lines, AreWritten entries lines ∧
      t.world.stream name = s.world.stream name ++ textOf lines := by
  induction h with
  | done => exact ⟨[], .nil, (List.append_nil _).symm⟩
  | turn h _ ih =>
    obtain ⟨hl, lines, hlines, hw⟩ := turn_stream h hs
    obtain ⟨more, hmore, hw'⟩ := ih (hl ▸ hs)
    refine ⟨lines ++ more, List.rel_append hlines hmore, ?_⟩
    rw [hw', hw, textOf_append, List.append_assoc]

namespace TwoLines

def message : Value := .text "m\nm"

def world : World := ⟨0, [], [], [("out", "before")], .empty⟩

def logger : Logger :=
  ⟨"c", "s", 0, ⟨.bool true, [], []⟩, .null, .int 1, .bool true, none, some (.stream "out")⟩

end TwoLines

end Transcript

end DriveBridge
