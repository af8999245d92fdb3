import Mathlib.Data.List.Forall2
import DriveBridge.Proofs.Json.Numbers
import DriveBridge.Proofs.Json.Strings
import DriveBridge.Proofs.Log.WrittenForm

namespace DriveBridge

namespace Value

mutual

def isReadable : Value → Bool
  | null => true
  | bool _ => true
  | int _ => true
  | text t => t.isUnpaired
  | list items => itemsAreReadable items
  | tuple items => itemsAreReadable items
  | table es => entriesAreReadable es
  | _ => false

def itemsAreReadable : List Value → Bool
  | [] => true
  | v :: vs => isReadable v && itemsAreReadable vs

def entriesAreReadable : List (Value × Value) → Bool
  | [] => true
  | (text name, v) :: es => name.isUnpaired && isReadable v && entriesAreReadable es
  | _ :: _ => false

end

def IsName (k : Value) : Prop := ∃ name, k = text name ∧ name.isUnpaired = true

theorem entriesAreReadable_cons {e : Value × Value} {es : List (Value × Value)} :
    entriesAreReadable (e :: es) ↔ e.1.IsName ∧ isReadable e.2 ∧ entriesAreReadable es := by
  obtain ⟨k, v⟩ := e
  cases k
  case text name => simp [entriesAreReadable, IsName, and_assoc]
  all_goals simp [entriesAreReadable, IsName]

theorem isReadable_of_mem {e : Value × Value} {es : List (Value × Value)}
    (h : entriesAreReadable es) (he : e ∈ es) : e.1.IsName ∧ e.2.isReadable := by
  induction es with
  | nil => cases he
  | cons f es ih =>
    obtain ⟨hkey, hv, hrest⟩ := entriesAreReadable_cons.mp h
    cases he with
    | head => exact ⟨hkey, hv⟩
    | tail _ he => exact ih hrest he

end Value

open Value

namespace JsonText

open CodePoint

variable {α : Type} {item? : Text → Option (α × Text)} {closing : CodePoint} {t rest : Text} {x : α}

def Starts (t : Text) : Prop := ∃ c s, t = c :: s ∧ isSpace c = false ∧ c ≠ 0x5D ∧ c ≠ 0x7D

structure Reads (item? : Text → Option (α × Text)) (t : Text) (x : α) : Prop where
  starts : Starts t
  read : ∀ rest, Ends rest → item? (t ++ rest) = some (x, rest)

theorem Starts.ne_nil (h : Starts t) : t ≠ [] := by
  obtain ⟨c, s, rfl, _⟩ := h
  exact List.cons_ne_nil c s

theorem Starts.skip_append (h : Starts t) (rest : Text) : skip (t ++ rest) = t ++ rest := by
  obtain ⟨c, s, rfl, hc, _⟩ := h
  simp [skip, hc]

theorem skip_cons {c : CodePoint} (h : isSpace c = false) (t : Text) : skip (c :: t) = c :: t := by
  simp [skip, h]

def IsClosing (c : CodePoint) : Prop := c = 0x5D ∨ c = 0x7D

theorem items?_intercalate {parts : List Text} {xs : List α} {bound : Nat} (hc : IsClosing closing)
    (h : List.Forall₂ (Reads item?) parts xs) (hne : parts ≠ []) (hb : parts.length ≤ bound)
    (rest : Text) :
    items? item? closing bound (List.intercalate [comma] parts ++ closing :: rest) =
      some (xs, rest) := by
  induction h generalizing bound with
  | nil => contradiction
  | @cons t x parts xs ht hparts ih =>
    obtain _ | bound := bound
    · exact absurd hb (by simp)
    cases hparts with
    | nil =>
      have hends : Ends (closing :: rest) := by
        rintro c ⟨⟩
        exact .inr hc
      have hspace : isSpace closing = false := by
        rcases hc with rfl | rfl <;> rfl
      rw [List.intercalate_singleton, items?, ht.starts.skip_append, ht.read _ hends]
      simp [skip_cons hspace]
    | @cons u y parts xs hu hparts =>
      have hends : Ends (comma :: (List.intercalate [comma] (u :: parts) ++ closing :: rest)) := by
        rintro c ⟨⟩
        exact .inl rfl
      have hne : comma ≠ closing := by
        rcases hc with rfl | rfl <;> decide
      have ih := ih (List.cons_ne_nil _ _) (Nat.le_of_succ_le_succ hb)
      rw [List.intercalate_cons_cons, List.append_assoc, List.append_assoc, List.singleton_append,
        items?, ht.starts.skip_append, ht.read _ hends]
      simp [skip_cons (show isSpace comma = false from rfl), hne, ih]

theorem intercalate_cons_eq (t : Text) (parts : List Text) :
    ∃ s, List.intercalate [comma] (t :: parts) = t ++ s ∧
      (List.intercalate [comma] parts).length ≤ s.length := by
  cases parts with
  | nil => exact ⟨[], by simp⟩
  | cons u parts =>
    rw [List.intercalate_cons_cons, List.append_assoc]
    exact ⟨_, rfl, by simp⟩

theorem length_le_intercalate {parts : List Text} (h : ∀ t ∈ parts, t ≠ []) :
    parts.length ≤ (List.intercalate [comma] parts).length := by
  induction parts with
  | nil => exact Nat.zero_le _
  | cons t parts ih =>
    rw [List.forall_mem_cons] at h
    obtain ⟨s, hs, hlength⟩ := intercalate_cons_eq t parts
    have ht := List.length_pos_iff.mpr h.1
    have hparts := ih h.2
    rw [hs, List.length_cons, List.length_append]
    omega

theorem length_le_of_mem {parts : List Text} (h : t ∈ parts) :
    t.length ≤ (List.intercalate [comma] parts).length := by
  induction parts with
  | nil => cases h
  | cons u parts ih =>
    obtain ⟨s, hs, hlength⟩ := intercalate_cons_eq u parts
    rw [hs, List.length_append]
    cases h with
    | head => omega
    | tail _ h =>
      have := ih h
      omega

theorem starts_of_forall₂ {parts : List Text} {xs : List α}
    (h : List.Forall₂ (Reads item?) parts xs) : ∀ t ∈ parts, Starts t := by
  induction h with
  | nil => exact List.forall_mem_nil _
  | cons ht _ ih => exact List.forall_mem_cons.mpr ⟨ht.starts, ih⟩

theorem sequence?_intercalate {parts : List Text} {xs : List α} (hc : IsClosing closing)
    (h : List.Forall₂ (Reads item?) parts xs) (rest : Text) :
    sequence? item? closing (List.intercalate [comma] parts ++ closing :: rest) =
      some (xs, rest) := by
  have hstarts := starts_of_forall₂ h
  have hlength := length_le_intercalate fun t ht => (hstarts t ht).ne_nil
  cases parts with
  | nil =>
    cases h
    have hspace : isSpace closing = false := by
      rcases hc with rfl | rfl <;> rfl
    rw [List.intercalate_nil, List.nil_append, sequence?, skip_cons hspace]
    dsimp only
    rw [if_pos rfl]
  | cons t parts =>
    obtain ⟨s, hs, _⟩ := intercalate_cons_eq t parts
    obtain ⟨c, u, rfl, hspace, hne⟩ := hstarts t List.mem_cons_self
    have hclosing : c ≠ closing := by
      rcases hc with rfl | rfl
      · exact hne.1
      · exact hne.2
    have hitems := items?_intercalate hc h (List.cons_ne_nil _ _)
      (Nat.le_trans hlength (Nat.le_add_right _ (closing :: rest).length)) rest
    rw [← List.length_append] at hitems
    rw [hs] at hitems ⊢
    rw [sequence?, List.append_assoc, List.cons_append, skip_cons hspace]
    dsimp only
    rw [if_neg hclosing]
    simpa using hitems

/-- A part is written, and its text is read as `x` by any reader that goes as deep as the text is
long. -/
def Recovers {β : Type} (write : β → Option Text) (read? : Nat → Text → Option (α × Text)) (b : β)
    (x : α) : Prop :=
  ∃ t, write b = some t ∧ ∀ depth, t.length ≤ depth → Reads (read? depth) t x

section

variable {β : Type} {write : β → Option Text} {read? : Nat → Text → Option (α × Text)} {bs : List β}
  {xs : List α}

theorem exists_parts (h : List.Forall₂ (Recovers write read?) bs xs) :
    ∃ parts, bs.mapM write = some parts ∧ ∀ depth, (∀ t ∈ parts, t.length ≤ depth) →
      List.Forall₂ (Reads (read? depth)) parts xs := by
  induction h with
  | nil => exact ⟨[], rfl, fun _ _ => .nil⟩
  | cons hb _ ih =>
    obtain ⟨t, ht, hread⟩ := hb
    obtain ⟨parts, hparts, hreads⟩ := ih
    refine ⟨t :: parts, by simp [List.mapM_cons, ht, hparts], ?_⟩
    intro depth hd
    rw [List.forall_mem_cons] at hd
    exact .cons (hread depth hd.1) (hreads depth hd.2)

theorem exists_sequence (hc : IsClosing closing) (h : List.Forall₂ (Recovers write read?) bs xs) :
    ∃ parts, bs.mapM write = some parts ∧
      ∀ depth, (List.intercalate [comma] parts ++ [closing]).length ≤ depth → ∀ rest,
        sequence? (read? depth) closing (List.intercalate [comma] parts ++ closing :: rest) =
          some (xs, rest) := by
  obtain ⟨parts, hparts, hreads⟩ := exists_parts h
  refine ⟨parts, hparts, ?_⟩
  intro depth hd rest
  rw [List.length_append] at hd
  apply sequence?_intercalate hc
  apply hreads
  intro t ht
  exact Nat.le_trans (length_le_of_mem ht) (Nat.le_of_add_right_le hd)

end

theorem word?_of_ne {c d : CodePoint} (h : c ≠ d) (word : Text) (v : Value) (t : Text) :
    word? (d :: word) v (c :: t) = none := by
  simp [word?, h.symm]

theorem value?_of_word {c : CodePoint} (hq : c ≠ quote) (hl : c ≠ 0x5B) (ht : c ≠ 0x7B)
    (depth : Nat) (t : Text) : value? (depth + 1) (c :: t) =
      (word? "null" .null (c :: t) <|> word? "true" (.bool true) (c :: t) <|>
        word? "false" (.bool false) (c :: t) <|> number? (c :: t)) := by
  rw [value?, if_neg hq, if_neg hl, if_neg ht]

theorem ne_of_numeral {c d : CodePoint} (h : isDigit c ∨ c = 0x2D)
    (hd : isDigit d = false ∧ d ≠ 0x2D) : c ≠ d := by
  rintro rfl
  rcases h with h | h
  · rw [hd.1] at h
    cases h
  · exact hd.2 h

theorem value?_of_number {c : CodePoint} (h : isDigit c ∨ c = 0x2D) (depth : Nat) (t : Text) :
    value? (depth + 1) (c :: t) = number? (c :: t) := by
  have hne {d : CodePoint} := ne_of_numeral h (d := d)
  have hnull : word? "null" .null (c :: t) = none := word?_of_ne (hne (by decide)) "ull" _ t
  have htrue : word? "true" (.bool true) (c :: t) = none :=
    word?_of_ne (hne (by decide)) "rue" _ t
  have hfalse : word? "false" (.bool false) (c :: t) = none :=
    word?_of_ne (hne (by decide)) "alse" _ t
  rw [value?_of_word (hne (by decide)) (hne (by decide)) (hne (by decide)), hnull, htrue, hfalse]
  rfl

def ReadsBack : Value → Value → Prop := Recovers write? value?

theorem readsBack_of_cons {v w : Value} {c : CodePoint} (hw : write? v = some (c :: t))
    (hc : isSpace c = false ∧ c ≠ 0x5D ∧ c ≠ 0x7D)
    (h : ∀ depth, t.length ≤ depth → ∀ rest, Ends rest →
      value? (depth + 1) (c :: t ++ rest) = some (w, rest)) : ReadsBack v w := by
  refine ⟨c :: t, hw, ?_⟩
  rintro (_ | depth) hd
  · cases hd
  · exact ⟨⟨c, t, rfl, hc⟩, h depth (Nat.le_of_succ_le_succ hd)⟩

theorem readsBack_null : ReadsBack .null .null := by
  apply readsBack_of_cons rfl (by decide)
  intro depth _ rest _
  refine (value?_of_word (by decide) (by decide) (by decide) depth _).trans ?_
  rfl

theorem readsBack_bool (b : Bool) : ReadsBack (.bool b) (.bool b) := by
  cases b
  all_goals
    apply readsBack_of_cons rfl (by decide)
    intro depth _ rest _
    refine (value?_of_word (by decide) (by decide) (by decide) depth _).trans ?_
    rfl

theorem readsBack_numeral {v w : Value} (hw : write? v = some t) (h : IsNumeral t w) :
    ReadsBack v w := by
  obtain ⟨c, s, rfl, hc⟩ := h.head
  have hne {d : CodePoint} := ne_of_numeral hc (d := d)
  apply readsBack_of_cons hw
  · refine ⟨?_, hne (by decide), hne (by decide)⟩
    simp [isSpace, hne (d := 0x20) (by decide), hne (d := 0x09) (by decide),
      hne (d := 0x0A) (by decide), hne (d := 0x0D) (by decide)]
  · intro depth _ rest hr
    rw [← h.read rest hr]
    exact value?_of_number hc depth _

theorem readsBack_text (h : t.isUnpaired) : ReadsBack (.text t) (.text t) := by
  apply readsBack_of_cons rfl (by decide)
  intro depth _ rest _
  simp [value?, string?_escaped h]

theorem writeItems?_eq_mapM (items : List Value) : writeItems? items = items.mapM write? := by
  induction items with
  | nil => rfl
  | cons v items ih => simp [writeItems?, List.mapM_cons, ih]

theorem readsBack_sequence {items ws : List Value} {v : Value}
    (hw : write? v = (writeItems? items).map (enclose 0x5B 0x5D))
    (h : List.Forall₂ ReadsBack items ws) : ReadsBack v (.list ws) := by
  obtain ⟨parts, hparts, hread⟩ := exists_sequence (.inl rfl) h
  rw [writeItems?_eq_mapM, hparts] at hw
  apply readsBack_of_cons hw (by decide)
  intro depth hd rest _
  have hsequence := hread depth hd rest
  simp [value?, show (0x5B : CodePoint) ≠ quote by decide, hsequence]

def writeMember? (e : Value × Value) : Option Text := do
  let name ← name? e.1
  let value ← write? e.2
  return string name ++ colon :: value

theorem writeMembers?_eq_mapM (es : List (Value × Value)) :
    writeMembers? es = es.mapM writeMember? := by
  induction es with
  | nil => rfl
  | cons e es ih => simp [writeMembers?, List.mapM_cons, writeMember?, ih, Option.bind_assoc]

def MemberReadsBack (e f : Value × Value) : Prop :=
  f.1 = e.1 ∧ e.1.IsName ∧ ReadsBack e.2 f.2

theorem MemberReadsBack.recovers {e f : Value × Value} (h : MemberReadsBack e f) :
    Recovers writeMember? (fun depth => member? (value? depth)) e f := by
  obtain ⟨k, v⟩ := e
  obtain ⟨l, w⟩ := f
  obtain ⟨hkey, ⟨name, hname, hunpaired⟩, t, ht, hread⟩ := h
  obtain rfl : l = k := hkey
  obtain rfl : l = .text name := hname
  refine ⟨string name ++ colon :: t, by simp [writeMember?, name?, ht], ?_⟩
  intro depth hd
  have hvalue := hread depth (by simp at hd; omega)
  refine ⟨⟨quote, _, rfl, by decide⟩, ?_⟩
  intro rest hr
  have hstring := string?_escaped hunpaired (colon :: (t ++ rest))
  simp [string, member?, hstring, skip_cons (show isSpace colon = false from rfl),
    hvalue.starts.skip_append, hvalue.read rest hr]

theorem readsBack_table {es fs : List (Value × Value)} (h : List.Forall₂ MemberReadsBack es fs) :
    ReadsBack (.table es) (.table fs) := by
  obtain ⟨parts, hparts, hread⟩ :=
    exists_sequence (.inr rfl) (h.imp fun _ _ => MemberReadsBack.recovers)
  have hw : write? (.table es) = some (enclose 0x7B 0x7D parts) := by
    rw [write?, writeMembers?_eq_mapM, hparts]
    rfl
  apply readsBack_of_cons hw (by decide)
  intro depth hd rest _
  have hsequence := hread depth hd rest
  simp [value?, show (0x7B : CodePoint) ≠ quote by decide, hsequence]

mutual

theorem readsBack_writtenForm : ∀ {v : Value}, v.isReadable → ReadsBack v v.writtenForm
  | .null, _ => readsBack_null
  | .bool b, _ => readsBack_bool b
  | .int n, _ => readsBack_numeral rfl (isNumeral_toText n)
  | .text _, h => readsBack_text h
  | .list _, h => readsBack_sequence (by rw [write?]) (itemsReadBack_writtenItems h)
  | .tuple _, h => readsBack_sequence (by rw [write?]) (itemsReadBack_writtenItems h)
  | .table _, h => readsBack_table (membersReadBack_writtenEntries h)

theorem itemsReadBack_writtenItems : ∀ {items : List Value}, itemsAreReadable items →
    List.Forall₂ ReadsBack items (writtenItems items)
  | [], _ => .nil
  | v :: items, h => by
    rw [itemsAreReadable, Bool.and_eq_true] at h
    exact .cons (readsBack_writtenForm h.1) (itemsReadBack_writtenItems h.2)

theorem membersReadBack_writtenEntries : ∀ {es : List (Value × Value)}, entriesAreReadable es →
    List.Forall₂ MemberReadsBack es (writtenEntries es)
  | [], _ => .nil
  | (k, v) :: es, h => by
    obtain ⟨hkey, hv, hes⟩ := entriesAreReadable_cons.mp h
    exact .cons ⟨rfl, hkey, readsBack_writtenForm hv⟩ (membersReadBack_writtenEntries hes)

end

theorem ReadsBack.read? {v w : Value} (h : ReadsBack v w) :
    ∃ t, write? v = some t ∧ read? t = some w := by
  obtain ⟨t, ht, hread⟩ := h
  have hreads := hread t.length (Nat.le_refl _)
  have hskip := hreads.starts.skip_append []
  have hvalue := hreads.read [] (by rintro c ⟨⟩)
  rw [List.append_nil] at hskip hvalue
  refine ⟨t, ht, ?_⟩
  rw [JsonText.read?, hskip, hvalue]
  rfl

end JsonText

end DriveBridge
