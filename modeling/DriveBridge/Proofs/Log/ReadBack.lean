import DriveBridge.Proofs.Log.Lines
import DriveBridge.Proofs.Log.Members
import DriveBridge.Proofs.Redaction.Coverage
import DriveBridge.Proofs.Redaction.Readable

namespace DriveBridge

open Value

namespace JsonText

def reread (x : Binary64) : Binary64 :=
  match number? (float x) with
  | some (.float y, _) => y
  | _ => x

def recovered : Value → Value
  | .float x => .float (reread x)
  | v => v.writtenForm

def IsRecoverable (v : Value) : Prop := v.isReadable ∨ ∃ x, v = .float x ∧ x.isFinite

theorem recovered_of_isReadable {v : Value} (h : v.isReadable) : recovered v = v.writtenForm := by
  cases v
  case float => cases h
  all_goals rfl

theorem IsRecoverable.readsBack {v : Value} (h : IsRecoverable v) : ReadsBack v (recovered v) := by
  rcases h with h | ⟨x, rfl, hx⟩
  · rw [recovered_of_isReadable h]
    exact readsBack_writtenForm h
  · obtain ⟨y, hy⟩ := exists_isNumeral_float hx
    have hread := hy.read [] (by rintro c ⟨⟩)
    rw [List.append_nil] at hread
    rw [recovered, reread, hread]
    exact readsBack_numeral rfl hy

def recoveredMembers (es : List (Value × Value)) : List (Value × Value) :=
  es.map fun e => (e.1, recovered e.2)

theorem membersReadBack {es : List (Value × Value)}
    (h : ∀ e ∈ es, e.1.IsName ∧ IsRecoverable e.2) :
    List.Forall₂ MemberReadsBack es (recoveredMembers es) := by
  rw [recoveredMembers, List.forall₂_map_right_iff, List.forall₂_same]
  intro e he
  exact ⟨rfl, (h e he).1, (h e he).2.readsBack⟩

theorem keys_recoveredMembers (es : List (Value × Value)) :
    (recoveredMembers es).map Prod.fst = es.map Prod.fst := List.map_map

theorem mem_recoveredMembers {name : Text} {v : Value} {es : List (Value × Value)}
    (h : Entry.member? name es = some v) : (.text name, recovered v) ∈ recoveredMembers es :=
  List.mem_map.mpr ⟨_, Entry.mem_of_member? h, rfl⟩

end JsonText

theorem Calendar.isPrintable_padTwo (n : Nat) : (padTwo n).IsPrintable := by
  have hdigits := Integer.isPrintable_digits n
  rw [padTwo]
  split
  · exact hdigits.cons (by decide)
  · exact hdigits

theorem Calendar.isPrintable_stamp (seconds : Int) : (stamp seconds).IsPrintable := by
  have happend (s t : Text) : (s ++ t).IsPrintable ↔ s.IsPrintable ∧ t.IsPrintable :=
    List.forall_mem_append
  simp +decide only [stamp, happend, isPrintable_padTwo, Integer.isPrintable_toText]

namespace Logger

open JsonText Entry

variable {l l' : Logger} {w w' : World} {level : Level} {message : Value}
  {context : List (Value × Value)}

theorem entry_eq_ok {now : Int} {entry : List (Value × Value)}
    (h : l.entry now level message context = .ok entry) :
    context.all (isContextKey ·.1) ∧ Calendar.hasStamp (now / 4) ∧
      ∃ shown, l.redactor.redactEntries context = some shown ∧
        entry = extend (base level l.component l.session l.started now message) shown := by
  rw [Logger.entry] at h
  split at h
  · rename_i hkeys
    split at h
    · rename_i shown hshown
      split at h
      · cases h
      · rename_i hstamp
        exact ⟨hkeys, by simpa using hstamp, shown, hshown, (Except.ok.inj h).symm⟩
    · cases h
  · cases h

theorem isRecoverable_base (level : Level) {now : Int} (hnow : Calendar.hasStamp (now / 4))
    (hstart : (Binary64.ofQuarters l.started).isFinite) (hcomponent : l.component.isUnpaired)
    (hsession : l.session.isUnpaired) (hmessage : message.isReadable) :
    ∀ e ∈ base level l.component l.session l.started now message,
      e.1.IsName ∧ IsRecoverable e.2 := by
  have htimestamp : (Binary64.ofQuarters now).isFinite := by
    obtain ⟨negative, rank, hfinite, _⟩ := ofQuarters_of_hasStamp hnow
    rw [hfinite]
    rfl
  have hlabel : level.label.IsPrintable := by cases level <;> decide
  simp only [base, List.forall_mem_cons, IsName, Value.text.injEq, exists_eq_left']
  refine ⟨⟨by decide, .inr ⟨_, rfl, htimestamp⟩⟩,
    ⟨by decide, .inl (Calendar.isPrintable_stamp _).isUnpaired⟩,
    ⟨by decide, .inl hlabel.isUnpaired⟩, ⟨by decide, .inl hcomponent⟩, ⟨by decide, .inl hsession⟩,
    ⟨by decide, .inr ⟨_, rfl, isFinite_elapsed hnow hstart⟩⟩, ⟨rfl, .inl hmessage⟩,
    List.forall_mem_nil _⟩

variable {es shown : List (Value × Value)} {e : Value × Value}

theorem mem_of_context (hc : shown.all (isContextKey ·.1)) (hn : (shown.map Prod.fst).Nodup)
    (he : e ∈ shown) : (e.1, recovered e.2) ∈ recoveredMembers (extend es shown) := by
  obtain ⟨k, v⟩ := e
  obtain ⟨name, rfl⟩ := exists_text_of_isContextKey (List.all_eq_true.mp hc _ he)
  exact mem_recoveredMembers (member?_extend es hc hn he)

theorem mem_of_base (level : Level) (component session : Text) (started now : Int)
    (message : Value) (hc : shown.all (isContextKey ·.1)) :
    ∀ e ∈ base level component session started now message, e.1 ∉ shown.map Prod.fst →
      (e.1, recovered e.2) ∈
        recoveredMembers (extend (base level component session started now message) shown) := by
  rintro ⟨k, v⟩ he hnot
  obtain ⟨name, hname, hv⟩ := member?_base he
  obtain rfl : k = .text name := hname
  apply mem_recoveredMembers
  rw [member?_extend_of_not_mem _ hc hnot, hv]

/-- The line of a log call is a JSON object with the members of its entry, once each and in order:
the base members, then the new names of the context. What the context gives is redacted, and
nothing in it replaces the level or the message. JSON has no form for an infinite time, so the
logger has started at a finite one. -/
theorem log_reads_back (h : l.log level message context w = (w', l', none))
    (hstart : (Binary64.ofQuarters l.started).isFinite) (hcomponent : l.component.isUnpaired)
    (hsession : l.session.isUnpaired) (hmessage : message.isReadable)
    (hcontext : entriesAreReadable context) (hkeys : (context.map Prod.fst).Nodup) :
    ∃ line shown members names, l.line w.now level message context = .ok line ∧
      l.Sends w (line ++ [CodePoint.newline]) w' l' ∧
      l.redactor.redactEntries context = some shown ∧
      JsonText.read? line = some (.table members) ∧
      shown.map Prod.fst = context.map Prod.fst ∧
      context.map Prod.fst = names.map .text ∧
      members.map Prod.fst = (order names).map .text ∧
      (members.map Prod.fst).Nodup ∧
      (∀ e ∈ shown, (e.1, e.2.writtenForm) ∈ members) ∧
      (∀ e ∈ base level l.component l.session l.started w.now message,
        e.1 ∉ context.map Prod.fst → (e.1, recovered e.2) ∈ members) ∧
      (.text "level", .text level.label) ∈ members ∧
      (.text "message", message.writtenForm) ∈ members := by
  obtain ⟨line, hline, hdeliver⟩ := exists_line_of_log h
  obtain ⟨entry, hentry, hwrite⟩ := exists_entry_of_line hline
  obtain ⟨hcontextKeys, hstamp, shown, hshown, rfl⟩ := entry_eq_ok hentry
  have hsame := Redactor.keys_redactEntries hshown
  have hshownKeys := all_isContextKey_congr hsame hcontextKeys
  have hreadable := Redactor.isReadable_redactEntries hshown hcontext
  have hbase := isRecoverable_base level hstamp hstart hcomponent hsession hmessage
  have hrecover : ∀ e ∈ extend (base level l.component l.session l.started w.now message) shown,
      e.1.IsName ∧ IsRecoverable e.2 := by
    intro e he
    rcases mem_extend hshownKeys he with he | he
    · exact hbase e he
    · exact (isReadable_of_mem hreadable he).imp_right .inl
  obtain ⟨written, hwritten, hread⟩ := (readsBack_table (membersReadBack hrecover)).read?
  obtain rfl : written = line := Option.some.inj (hwritten.symm.trans hwrite)
  obtain ⟨names, hnames⟩ := exists_names hcontextKeys
  have hnodup : names.Nodup := .of_map _ (hnames ▸ hkeys)
  have horder : (recoveredMembers (extend (base level l.component l.session l.started w.now
      message) shown)).map Prod.fst = (order names).map .text := by
    rw [keys_recoveredMembers]
    exact keys_extend rfl (hsame.trans hnames) hnodup
  have hmember := mem_of_base level l.component l.session l.started w.now message hshownKeys
  rw [hsame] at hmember
  refine ⟨written, shown, _, names, hline, deliver_sends hdeliver, hshown, hread, hsame, hnames,
    horder, ?_, ?_, hmember, ?_, ?_⟩
  · rw [horder]
    exact (nodup_order hnodup).map fun _ _ => Value.text.inj
  · intro e he
    rw [← recovered_of_isReadable (isReadable_of_mem hreadable he).2]
    exact mem_of_context hshownKeys (hsame ▸ hkeys) he
  · exact hmember (.text "level", .text level.label) (by simp [base])
      (not_mem_keys_of_reserved hcontextKeys (by decide))
  · rw [← recovered_of_isReadable hmessage]
    exact hmember (.text "message", message) (by simp [base])
      (not_mem_keys_of_reserved hcontextKeys (by decide))

end Logger

namespace Replaced

def message : Value := .text (Text.ofString "\"\n😀" ++ [0xD83D])

def context : List (Value × Value) :=
  [(.text "timestamp", .tuple [.int (-3), .null]), (.text "path", .text "/home/a")]

def world : World := ⟨0, [], [], [], .empty⟩

def logger : Logger :=
  ⟨"c", "s", 0, ⟨.bool true, [], []⟩, .null, .int 1, .bool true, none, some (.stream "out")⟩

theorem reads_back_replaced : ∃ line members, logger.line 0 .error message context = .ok line ∧
    JsonText.read? line = some (.table members) ∧
    members.map Prod.fst = (Entry.baseNames ++ [Text.ofString "path"]).map .text ∧
    (.text "timestamp", .list [.int (-3), .null]) ∈ members ∧
    (.text "path", .text "[REDACTED]/a") ∈ members ∧ (.text "level", .text "error") ∈ members ∧
    (.text "message", message) ∈ members := by
  have hs : logger.IsAtStream "out" := ⟨rfl, rfl⟩
  have hline : ∃ line, logger.line 0 .error message context = .ok line := by
    cbv
    exact ⟨_, rfl⟩
  obtain ⟨line, hline⟩ := hline
  have hlog := hs.log_of_line (w := world) hline
  have hshown : logger.redactor.redactEntries context =
      some [(.text "timestamp", .tuple [.int (-3), .null]),
        (.text "path", .text "[REDACTED]/a")] := rfl
  obtain ⟨written, shown, members, names, hwritten, _, hredact, hread, _, hnames, horder, _,
    hcontext, _, hlevel, hmessage⟩ := Logger.log_reads_back hlog (by decide +kernel) (by decide)
      (by decide) (by decide) (by decide) (by simp +decide [context])
  obtain rfl := Option.some.inj (hredact.symm.trans hshown)
  have hinjective : Function.Injective Value.text := fun _ _ => Value.text.inj
  obtain rfl : names = ["timestamp", "path"] := List.map_injective_iff.mpr hinjective hnames.symm
  exact ⟨written, members, hwritten, hread, horder, hcontext _ (.head _),
    hcontext _ (.tail _ (.head _)), hlevel, hmessage⟩

end Replaced

end DriveBridge
