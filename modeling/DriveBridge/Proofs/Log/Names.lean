import DriveBridge.Log.Rotation
import DriveBridge.Proofs.Disk.Sound

namespace DriveBridge

open CodePoint

namespace Location

theorem eq_append_takeBackWhile (name : Text) (h : dot ∈ name) :
    ∃ stem, name = stem ++ dot :: Text.takeBackWhile (· != dot) name := by
  obtain ⟨tail, stem, hn, hd⟩ := List.eq_append_cons_of_mem (List.mem_reverse.mpr h)
  have ht (c : CodePoint) (hc : c ∈ tail) : (c != dot) = true := by
    rw [bne_iff_ne]
    rintro rfl
    exact hd hc
  have hb : Text.takeBackWhile (· != dot) name = tail.reverse := by
    rw [Text.takeBackWhile, hn, List.takeWhile_append_of_pos ht,
      List.takeWhile_cons_of_neg (by simp), List.append_nil]
  refine ⟨stem.reverse, ?_⟩
  rw [hb]
  calc
    name = name.reverse.reverse := (List.reverse_reverse name).symm
    _ = (tail ++ dot :: stem).reverse := by rw [hn]
    _ = stem.reverse ++ dot :: tail.reverse := by simp

theorem cutSuffix_append (name : Text) : (cutSuffix name).1 ++ (cutSuffix name).2 = name := by
  unfold cutSuffix
  dsimp only
  split
  · rename_i h
    obtain ⟨stem, hs⟩ := eq_append_takeBackWhile name h.1
    generalize Text.takeBackWhile (· != dot) name = tail at hs
    subst hs
    have hl : (stem ++ dot :: tail).length - tail.length - 1 = stem.length := by
      simp only [List.length_append, List.length_cons]
      omega
    rw [hl, List.take_left]
  · exact List.append_nil name

theorem isName_fileName_ne_nil {p : Location} (h : IsName p.fileName) : p.names ≠ [] := by
  intro hn
  have hf : p.fileName = [] := by rw [fileName, hn]; rfl
  have hi : isIdle p.fileName = true := by rw [hf]; rfl
  rw [h.1] at hi
  cases hi

theorem dropLast_append_fileName {p : Location} (h : p.names ≠ []) :
    p.names.dropLast ++ [p.fileName] = p.names := by
  rw [fileName, List.getLastD_eq_getLast?, List.getLast?_eq_some_getLast h]
  exact List.dropLast_concat_getLast h

def home (p : Location) : Place := Place.along [] p.names.dropLast

theorem place_eq_home {p : Location} (h : IsName p.fileName) :
    p.place = p.home ++ [SystemName.encode p.fileName] := by
  rw [place, ← dropLast_append_fileName (isName_fileName_ne_nil h), Place.along_append,
    along_name h]
  simp only [home]

theorem isName_of_locate {d : Disk} (hd : d.IsSound) {p : Location} {place : Place}
    (h : d.locate p = .ok place) (ha : d.at? place ≠ some .directory) : IsName p.fileName := by
  have hf := Disk.follow_of_locate h
  have hn : p.names ≠ [] := by
    intro hn
    rw [hn, Disk.follow] at hf
    exact ha ((Except.ok.inj hf) ▸ d.at?_root)
  rw [← dropLast_append_fileName hn, Disk.follow_append] at hf
  obtain ⟨here, _, hf⟩ := Disk.bind_eq_ok hf
  have hdir := Disk.at?_of_follow_cons hf
  simp only [Disk.follow, hdir] at hf
  split at hf
  · exact absurd (Except.ok.inj hf ▸ hdir) ha
  rename_i hi
  split at hf
  · exact absurd (Except.ok.inj hf ▸ hd.at?_above hdir) ha
  rename_i hu
  constructor
  · exact Bool.eq_false_iff.mpr hi
  · exact hu

theorem isName_of_find {d : Disk} (hd : d.IsSound) {p : Location} {id : FileId}
    (h : d.find p = .ok (some (.file id))) : IsName p.fileName := by
  obtain ⟨hloc, ha⟩ := Disk.locate_of_find_some h
  exact isName_of_locate hd hloc (by rw [ha]; simp)

end Location

namespace Rotation

open Location

def numberedName (name : Text) (i : Nat) : Text :=
  (cutSuffix name).1 ++ dot :: Integer.digits i ++ (cutSuffix name).2

theorem names_numbered (p : Location) (i : Nat) :
    (numbered p i).names = p.names.dropLast ++ [numberedName p.fileName i] := rfl

theorem fileName_numbered (p : Location) (i : Nat) :
    (numbered p i).fileName = numberedName p.fileName i := by
  rw [fileName, names_numbered, List.getLastD_eq_getLast?, List.getLast?_concat]
  rfl

theorem home_numbered (p : Location) (i : Nat) : (numbered p i).home = p.home := by
  rw [home, names_numbered, List.dropLast_concat]
  rfl

theorem isName_numberedName (name : Text) (i : Nat) : IsName (numberedName name i) := by
  obtain ⟨c, hc⟩ := List.exists_mem_of_ne_nil _ (Integer.digits_ne_nil i)
  have hv := Integer.val_of_mem_digits hc
  apply isName_of_mem (c := c)
  · simp [numberedName, hc]
  · rintro rfl
    exact absurd hv (by decide)

theorem isName_numbered (p : Location) (i : Nat) : IsName (numbered p i).fileName := by
  rw [fileName_numbered]
  exact isName_numberedName _ _

theorem place_numbered (p : Location) (i : Nat) :
    (numbered p i).place = p.home ++ [SystemName.encode (numberedName p.fileName i)] := by
  rw [place_eq_home (isName_numbered p i), home_numbered, fileName_numbered]

theorem encode_numberedName (name : Text) (i : Nat) :
    SystemName.encode (numberedName name i) =
      SystemName.encode (cutSuffix name).1 ++ SystemName.encode [dot] ++
        SystemName.encode (Integer.digits i) ++ SystemName.encode (cutSuffix name).2 := by
  simp only [numberedName, ← SystemName.encode_append, List.append_assoc, List.cons_append,
    List.nil_append]

theorem encode_numberedName_injective {name : Text} {i j : Nat}
    (h : SystemName.encode (numberedName name i) = SystemName.encode (numberedName name j)) :
    i = j := by
  simp only [encode_numberedName, List.append_left_inj, List.append_right_inj,
    SystemName.encode_digits] at h
  exact Integer.digits_injective (Utf8.encode_injective h)

theorem length_lt_numberedName (name : Text) (i : Nat) :
    (SystemName.encode name).length < (SystemName.encode (numberedName name i)).length := by
  have hn : SystemName.encode name =
      SystemName.encode (cutSuffix name).1 ++ SystemName.encode (cutSuffix name).2 := by
    rw [← SystemName.encode_append, cutSuffix_append]
  have hd : (SystemName.encode [dot]).length = 1 := by decide
  rw [hn, encode_numberedName]
  simp only [List.length_append, hd]
  omega

theorem place_numbered_ne {p : Location} (hp : IsName p.fileName) (i : Nat) :
    (numbered p i).place ≠ p.place := by
  rw [place_eq_home hp, place_numbered]
  intro h
  have hsame := List.singleton_inj.mp (List.append_cancel_left h)
  exact Nat.ne_of_gt (length_lt_numberedName p.fileName i) (congrArg List.length hsame)

theorem place_numbered_injective {p : Location} {i j : Nat}
    (h : (numbered p i).place = (numbered p j).place) : i = j := by
  rw [place_numbered, place_numbered] at h
  exact encode_numberedName_injective (List.singleton_inj.mp (List.append_cancel_left h))

theorem length_numberedName_mono (name : Text) {i j : Nat} (h : i ≤ j) :
    (SystemName.encode (numberedName name i)).length ≤
      (SystemName.encode (numberedName name j)).length := by
  have hd := Integer.length_digits_mono h
  simp only [encode_numberedName, List.length_append, SystemName.length_encode_digits]
  omega

theorem exists_join_concat (names : List Text) :
    ∃ front, ∀ name, Text.join slash (names ++ [name]) = front ++ name := by
  induction names with
  | nil => exact ⟨[], fun name => List.intercalate_singleton⟩
  | cons first names ih =>
    obtain ⟨front, hf⟩ := ih
    exists first ++ [slash] ++ front
    intro name
    have hn : names ++ [name] ≠ [] := List.append_ne_nil_of_right_ne_nil _ (List.cons_ne_nil _ _)
    have hj := hf name
    rw [Text.join] at hj
    rw [Text.join, List.cons_append, List.intercalate_cons_of_ne_nil hn, hj]
    simp only [List.append_assoc]

theorem exists_text_numbered {p : Location} (hp : IsName p.fileName) : ∃ head tail,
    p.text = head ++ tail ∧ ∀ i, (numbered p i).text = head ++ dot :: Integer.digits i ++ tail := by
  obtain ⟨front, hf⟩ := exists_join_concat p.names.dropLast
  have htext (q : Location) (hn : q.names ≠ []) :
      q.text = q.anchor.text ++ Text.join slash q.names := by
    rw [Location.text, if_neg fun h => hn h.2]
  have hp' := isName_fileName_ne_nil hp
  refine ⟨p.anchor.text ++ front ++ (cutSuffix p.fileName).1, (cutSuffix p.fileName).2, ?_, ?_⟩
  · have hj : Text.join slash p.names = front ++ p.fileName := by
      rw [← hf, dropLast_append_fileName hp']
    rw [htext p hp', hj, List.append_assoc, cutSuffix_append, List.append_assoc]
  · intro i
    have hn : (numbered p i).names ≠ [] :=
      List.append_ne_nil_of_right_ne_nil _ (List.cons_ne_nil _ _)
    rw [htext _ hn, names_numbered, hf]
    simp only [numberedName, List.append_assoc]
    rfl

theorem unencodable?_eq_none {t : Text} : SystemName.unencodable? t = none ↔
    ∀ c ∈ t, (c.isSurrogate && !SystemName.isStrayOctet c) = false := by
  rw [SystemName.unencodable?, Unencodable.find?, Option.map_eq_none_iff,
    List.findIdx?_eq_none_iff]

theorem unusable?_of_plain {t : Text}
    (hc : ∀ c ∈ t, (c.isSurrogate && !SystemName.isStrayOctet c) = false) (hz : 0 ∉ t)
    (hn : t ≠ []) : Disk.unusable? t =
      if Disk.maxPath ≤ (SystemName.encode t).length then some .nameTooLong else none := by
  rw [Disk.unusable?, unencodable?_eq_none.mpr hc]
  dsimp only
  rw [if_neg hz, if_neg hn]

theorem unusable?_numbered {p : Location} (hp : IsName p.fileName)
    (hu : Disk.unusable? p.text = none) (i : Nat) : Disk.unusable? (numbered p i).text =
      if Disk.maxPath ≤ (SystemName.encode (numbered p i).text).length then some .nameTooLong
      else none := by
  obtain ⟨head, tail, ht, hi⟩ := exists_text_numbered hp
  rw [hi]
  have hplain : SystemName.unencodable? p.text = none ∧ 0 ∉ p.text := by
    rw [Disk.unusable?] at hu
    split at hu
    · cases hu
    split at hu
    · cases hu
    · exact ⟨by assumption, by assumption⟩
  have hmem (c : CodePoint) (h : c ∈ head ++ dot :: Integer.digits i ++ tail) :
      c ∈ p.text ∨ c = dot ∨ c ∈ Integer.digits i := by
    rw [ht]
    simp only [List.mem_append, List.mem_cons] at h ⊢
    rcases h with (h | h | h) | h
    · exact .inl (.inl h)
    · exact .inr (.inl h)
    · exact .inr (.inr h)
    · exact .inl (.inr h)
  apply unusable?_of_plain
  · intro c hc
    rcases hmem c hc with h | rfl | h
    · exact unencodable?_eq_none.mp hplain.1 c h
    · rfl
    · have hv := Integer.val_of_mem_digits h
      simp only [CodePoint.isSurrogate, Bool.and_eq_false_iff, decide_eq_false_iff_not]
      omega
  · intro hz
    rcases hmem 0 hz with h | h | h
    · exact hplain.2 h
    · cases h
    · have hv := Integer.val_of_mem_digits h
      exact absurd hv.1 (by decide)
  · simp

theorem length_text_numbered_mono {p : Location} (hp : IsName p.fileName) {i j : Nat}
    (h : i ≤ j) : (SystemName.encode (numbered p i).text).length ≤
      (SystemName.encode (numbered p j).text).length := by
  obtain ⟨head, tail, _, hi⟩ := exists_text_numbered hp
  have hd := Integer.length_digits_mono h
  have hc (n : Nat) : dot :: Integer.digits n = [dot] ++ Integer.digits n := rfl
  simp only [hi, hc, SystemName.encode_append, List.length_append,
    SystemName.length_encode_digits]
  omega

/-- The names of a log from the youngest on: the log file itself, then the rotated ones. -/
def generation (p : Location) : Nat → Location
  | 0 => p
  | i + 1 => numbered p (i + 1)

section

variable {p : Location} (hp : IsName p.fileName)
include hp

theorem place_generation (i : Nat) : ∃ name, IsName name ∧
    (generation p i).place = p.home ++ [SystemName.encode name] := by
  cases i with
  | zero => exact ⟨p.fileName, hp, place_eq_home hp⟩
  | succ i => exact ⟨_, isName_numberedName _ _, place_numbered p (i + 1)⟩

theorem isEnclosing_generation (i : Nat) : (generation p i).place.isEnclosing = false := by
  obtain ⟨name, hn, h⟩ := place_generation hp i
  rw [h]
  exact Place.isEnclosing_name p.home hn.2

theorem generation_injective {i j : Nat} (h : (generation p i).place = (generation p j).place) :
    i = j := by
  cases i with
  | zero => cases j with
    | zero => rfl
    | succ j => exact absurd h.symm (place_numbered_ne hp (j + 1))
  | succ i => cases j with
    | zero => exact absurd h (place_numbered_ne hp (i + 1))
    | succ j => exact place_numbered_injective h

theorem generation_isPrefix_append_iff {i j : Nat} (below : Place) :
    (generation p i).place <+: (generation p j).place ++ below ↔ i = j := by
  constructor
  · intro h
    obtain ⟨_, _, hi⟩ := place_generation hp i
    obtain ⟨_, _, hj⟩ := place_generation hp j
    have hlength : (generation p i).place.length = (generation p j).place.length := by
      rw [hi, hj, List.length_append, List.length_append]
      rfl
    have hsame : (generation p i).place <+: (generation p j).place :=
      List.prefix_of_prefix_length_le h (List.prefix_append _ below) (Nat.le_of_eq hlength)
    exact generation_injective hp (hsame.eq_of_length hlength)
  · rintro rfl
    exact List.prefix_append _ below

theorem generation_isPrefix_iff {i j : Nat} :
    (generation p i).place <+: (generation p j).place ↔ i = j := by
  have h := generation_isPrefix_append_iff hp (i := i) (j := j) []
  rwa [List.append_nil] at h

end

end Rotation

end DriveBridge
