import DriveBridge.Proofs.Path.Conversion
import DriveBridge.Proofs.Redaction.Parts

namespace DriveBridge

open CodePoint

theorem Text.split_replace (t : Text) :
    split (· = slash) (replace backslash slash t) = split isSeparator t := by
  induction t with
  | nil => rfl
  | cons c t ih =>
    rw [replace_cons, split_cons, split_cons, ih]
    by_cases hb : c = backslash
    · subst hb
      rfl
    · by_cases hs : c = slash
      · subst hs
        rfl
      · simp [isSeparator, hb, hs]

namespace HostPath

theorem join_segments (p : HostPath) : Text.join slash p.segments = p.text :=
  Text.join_split slash p.text

theorem slash_not_mem_of_mem_segments {p : HostPath} {segment : Text}
    (h : segment ∈ p.segments) : slash ∉ segment := by
  intro hslash
  have hcut := Text.isCut_split (· = slash) p.text
  have := hcut.eq_false_of_mem h hslash
  simp at this

theorem lastSegment_eq (p : HostPath) :
    p.lastSegment = Text.takeBackWhile (· != slash) p.text := by
  rw [lastSegment, segments, List.getLastD_eq_getLast?, (Text.isCut_split _ _).getLast?_eq]
  rfl

end HostPath

namespace ClientPath

theorem segments_toHost (p : ClientPath) : p.toHost.segments =
    if p.text.head?.any isSeparator then (Text.split isSeparator p.text).tail
      else Text.split isSeparator p.text := by
  obtain ⟨t⟩ := p
  rw [HostPath.segments, ← Text.split_replace, toHost]
  cases t with
  | nil => rfl
  | cons c t =>
    rw [Text.replace_cons, List.head?_cons, Option.any_some]
    by_cases hc : isSeparator c
    · rw [(Text.replaced_eq_slash_iff c).mpr hc, dropRoot_slash, Text.split_cons, if_pos hc,
        if_pos (decide_eq_true rfl), List.tail_cons]
    · have hslash := mt (Text.replaced_eq_slash_iff c).mp hc
      rw [dropRoot_of_head (by simpa using hslash), if_neg hc]

theorem lastSegment_toHost (p : ClientPath) : p.toHost.lastSegment = p.text.lastPart := by
  have hlast := (Text.isCut_split isSeparator p.text).getLast?_eq
  rw [HostPath.lastSegment, segments_toHost, List.getLastD_eq_getLast?]
  split
  · rename_i hhead
    obtain ⟨t⟩ := p
    cases t with
    | nil => cases hhead
    | cons c t =>
      -- The piece that is dropped stands in front of another one.
      have hc : isSeparator c := hhead
      rw [Text.split_cons, if_pos hc, List.getLast?_cons_of_ne_nil (Text.split_ne_nil _ _)] at hlast
      rw [Text.split_cons, if_pos hc, List.tail_cons, hlast]
      rfl
  · rw [hlast]
    rfl

/-- The host, its last segment and the redaction of the log agree on the pieces of a client path. -/
theorem segments_agree {r : Redactor} (hr : r.enabled.isTrue) (p : ClientPath) (q : HostPath) :
    (∃ pieces, (∀ ps, Text.IsCut isSeparator p.text ps ↔ ps = pieces) ∧
      p.toHost.segments = (if p.text.head?.any isSeparator then pieces.tail else pieces) ∧
      pieces.getLast? = some p.toHost.lastSegment) ∧
    (Text.join slash q.segments = q.text ∧ ∀ segment ∈ q.segments, slash ∉ segment) ∧
    r.redactPath p.text = if p.text.any isSeparator
      then Redactor.mark ++ slash :: p.toHost.lastSegment else p.text := by
  refine ⟨⟨_, fun _ => Text.isCut_iff, p.segments_toHost, ?_⟩, ?_, ?_⟩
  · rw [lastSegment_toHost]
    exact (Text.isCut_split isSeparator p.text).getLast?_eq
  · exact ⟨q.join_segments, fun _ => HostPath.slash_not_mem_of_mem_segments⟩
  · rw [lastSegment_toHost, Redactor.redactPath, hr, Bool.true_and, Text.lastPart]

theorem segments_mixed :
    (∃ pieces, (∀ ps, Text.IsCut isSeparator "\\/a\\\\b/c\\" ps ↔ ps = pieces) ∧
      (ClientPath.mk "\\/a\\\\b/c\\").toHost.segments = pieces.tail) ∧
    Text.join slash (HostPath.mk "//a/").segments = "//a/" ∧
    (Redactor.make (.bool true) []).redactPath "\\/a\\\\b/c\\" = "[REDACTED]/" := by
  obtain ⟨⟨pieces, hcut, hsegments, _⟩, ⟨hjoin, _⟩, hredact⟩ :=
    segments_agree (r := .make (.bool true) []) rfl ⟨"\\/a\\\\b/c\\"⟩ ⟨"//a/"⟩
  exact ⟨⟨pieces, hcut, hsegments⟩, hjoin, hredact⟩

end ClientPath

end DriveBridge
