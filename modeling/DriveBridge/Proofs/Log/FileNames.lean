import DriveBridge.Log.Opening
import DriveBridge.Proofs.Log.Names
import DriveBridge.Proofs.Text.Pieces

namespace DriveBridge

open CodePoint Location Rotation

namespace Location

theorem cutSuffix_append_suffix {stem : Text} (tail : Text) (hstem : stem ≠ []) (htail : tail ≠ [])
    (hdot : dot ∉ tail) : cutSuffix (stem ++ dot :: tail) = (stem, dot :: tail) := by
  have hall : tail.all (· != dot) := by
    rw [List.all_eq_true]
    intro c hc
    rw [bne_iff_ne]
    rintro rfl
    exact hdot hc
  have hlast : Text.takeBackWhile (· != dot) (stem ++ dot :: tail) = tail :=
    Text.takeBackWhile_append stem (by simp) hall
  have hlength : (stem ++ dot :: tail).length - tail.length - 1 = stem.length := by
    simp only [List.length_append, List.length_cons]
    omega
  unfold cutSuffix
  dsimp only
  rw [hlast, hlength, List.take_left, if_pos ⟨by simp, hstem, htail⟩]

theorem ofText_name {name : Text} (hn : IsName name) (hs : slash ∉ name) :
    ofText name = ⟨.relative, [name]⟩ := by
  have hplain (c : CodePoint) (hc : c ∈ name) : isSlash c = false := by
    rw [isSlash, beq_eq_false_iff_ne]
    rintro rfl
    exact hs hc
  have hwritten : writtenNames name = [name] := by
    apply Text.split_of_all
    rw [List.all_eq_true]
    intro c hc
    rw [hplain c hc]
    rfl
  have hanchor : Anchor.ofText name = .relative := by
    unfold Anchor.ofText
    cases name with
    | nil => rfl
    | cons c name =>
      have hc := hplain c List.mem_cons_self
      rw [List.takeWhile_cons_of_neg (by simpa [isSlash] using hc)]
      rfl
  rw [ofText, hwritten, hanchor, List.filter_cons, hn.1]
  rfl

end Location

namespace LoggerRequest

def stem (component session : Text) : Nat → Text
  | 0 => component ++ "_" ++ session
  | g + 1 => component ++ "_" ++ session ++ dot :: Integer.digits (g + 1)

variable {directory component session : Text}

theorem stem_ne_nil (component session : Text) : stem component session 0 ≠ [] := by
  simp [stem, Text.ofString]

theorem isName_stem (component session suffix : Text) :
    IsName (stem component session 0 ++ suffix) := by
  apply isName_of_mem (c := CodePoint.ofChar '_')
  · simp [stem, Text.ofString]
  · decide

theorem fileIn_eq (hc : slash ∉ component) (hs : slash ∉ session) (hne : session ≠ []) :
    fileIn directory component (some session) =
      ⟨(ofText directory).anchor,
        (ofText directory).names ++ [stem component session 0 ++ Text.ofString ".jsonl"]⟩ := by
  have hslash : slash ∉ stem component session 0 ++ Text.ofString ".jsonl" := by
    have hunderscore : slash ∉ Text.ofString "_" := by decide
    have hsuffix : slash ∉ Text.ofString ".jsonl" := by decide
    simp only [stem, List.mem_append, not_or]
    exact ⟨⟨⟨hc, hunderscore⟩, hs⟩, hsuffix⟩
  have hsession : ((some session).filter (· ≠ [])).getD (Text.ofString "default") = session := by
    rw [Option.filter_some, if_pos (by simpa using hne), Option.getD_some]
  rw [fileIn, hsession, ← stem, ofText_name (isName_stem component session _) hslash, append, if_pos rfl]

theorem numberedName_stem (component session : Text) (g : Nat) :
    numberedName (stem component session 0 ++ Text.ofString ".jsonl") (g + 1) =
      stem component session (g + 1) ++ Text.ofString ".jsonl" := by
  have hcut : cutSuffix (stem component session 0 ++ Text.ofString ".jsonl") =
      (stem component session 0, Text.ofString ".jsonl") :=
    cutSuffix_append_suffix (Text.ofString "jsonl") (stem_ne_nil component session) (by decide)
      (by decide)
  rw [numberedName, hcut]
  simp only [stem, List.append_assoc]

theorem fileName_fileIn (directory : Text) (hc : slash ∉ component) (hs : slash ∉ session)
    (hne : session ≠ []) : (fileIn directory component (some session)).fileName =
      stem component session 0 ++ Text.ofString ".jsonl" := by
  rw [fileIn_eq hc hs hne, fileName, List.getLastD_eq_getLast?, List.getLast?_concat]
  rfl

theorem isName_fileIn (directory : Text) (hc : slash ∉ component) (hs : slash ∉ session)
    (hne : session ≠ []) : IsName (fileIn directory component (some session)).fileName := by
  rw [fileName_fileIn directory hc hs hne]
  exact isName_stem component session _

theorem place_generation_fileIn (directory : Text) (hc : slash ∉ component) (hs : slash ∉ session)
    (hne : session ≠ []) (g : Nat) :
    (generation (fileIn directory component (some session)) g).place =
      (ofText directory).place ++
        [SystemName.encode (stem component session g ++ Text.ofString ".jsonl")] := by
  have hname := fileName_fileIn directory hc hs hne
  have hhome : (fileIn directory component (some session)).home = (ofText directory).place := by
    rw [fileIn_eq hc hs hne, home, List.dropLast_concat, place]
  cases g with
  | zero =>
    rw [generation, place_eq_home (isName_fileIn directory hc hs hne), hhome, hname]
  | succ g => rw [generation, place_numbered, hhome, hname, numberedName_stem]

end LoggerRequest

end DriveBridge
