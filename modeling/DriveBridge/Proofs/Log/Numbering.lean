import DriveBridge.Proofs.Log.FileNames

namespace DriveBridge

open CodePoint

namespace Location

variable {name stem ending : Text}

/-- A name in two parts. The suffix starts at the last dot, unless nothing stands on one side of it:
such a name has no suffix. -/
inductive IsParted (name : Text) : (stem ending : Text) → Prop
  | dotted {stem tail : Text} (parts : name = stem ++ dot :: tail) (last : dot ∉ tail)
    (before : stem ≠ []) (behind : tail ≠ []) : IsParted name stem (dot :: tail)
  | whole (none : ∀ stem tail, name = stem ++ dot :: tail → dot ∉ tail → stem = [] ∨ tail = []) :
    IsParted name name []

theorem dot_not_mem_takeBackWhile (name : Text) : dot ∉ Text.takeBackWhile (· != dot) name := by
  intro h
  rw [Text.takeBackWhile, List.mem_reverse] at h
  have := List.all_eq_true.mp List.all_takeWhile dot h
  simp at this

theorem cutSuffix_of_whole
    (h : ∀ stem tail, name = stem ++ dot :: tail → dot ∉ tail → stem = [] ∨ tail = []) :
    cutSuffix name = (name, []) := by
  unfold cutSuffix
  dsimp only
  rw [if_neg]
  rintro ⟨hdot, hstem, htail⟩
  obtain ⟨stem, hname⟩ := eq_append_takeBackWhile name hdot
  rcases h stem _ hname (dot_not_mem_takeBackWhile name) with rfl | hnil
  · apply hstem
    have hlength := congrArg List.length hname
    rw [List.nil_append, List.length_cons] at hlength
    rw [hlength]
    simp
  · exact htail hnil

theorem IsParted.cutSuffix_eq (h : IsParted name stem ending) : cutSuffix name = (stem, ending) := by
  cases h with
  | dotted parts last before behind =>
    rw [parts]
    exact cutSuffix_append_suffix _ before behind last
  | whole none => exact cutSuffix_of_whole none

theorem exists_isParted (name : Text) : ∃ stem ending, IsParted name stem ending := by
  by_cases h : ∀ stem tail, name = stem ++ dot :: tail → dot ∉ tail → stem = [] ∨ tail = []
  · exact ⟨name, [], .whole h⟩
  · simp only [Classical.not_forall, not_or] at h
    obtain ⟨stem, tail, hname, hlast, hbefore, hbehind⟩ := h
    exact ⟨stem, dot :: tail, .dotted hname hlast hbefore hbehind⟩

def suffix (p : Location) : Text := (cutSuffix p.fileName).2

def withSuffix (p : Location) (ending : Text) : Location :=
  { p with names := p.names.dropLast ++ [(cutSuffix p.fileName).1 ++ ending] }

end Location

namespace Rotation

open Location

variable {p : Location}

theorem numbered_eq_withSuffix (p : Location) (i : Nat) :
    numbered p i = p.withSuffix (dot :: Integer.digits i ++ p.suffix) := by
  rw [withSuffix, ← List.append_assoc]
  rfl

theorem parent_numbered (p : Location) (i : Nat) : (numbered p i).parent = p.parent := by
  simp only [parent, names_numbered, List.dropLast_concat]
  rfl

/-- The numbered paths of a log file are different from each other and from its own, even as octets,
and lie in its directory. The number stands right before the suffix of the name, or at its end. -/
theorem numbered_apart (hp : IsName p.fileName) :
    (∀ i j, (numbered p i).place = (numbered p j).place → i = j) ∧
    (∀ i, (numbered p i).place ≠ p.place) ∧
    (∀ i, (numbered p i).parent = p.parent ∧
      (numbered p i).place.dropLast = p.place.dropLast) ∧
    (∀ i, numbered p i = p.withSuffix (dot :: Integer.digits i ++ p.suffix)) ∧
    ∃ stem, IsParted p.fileName stem p.suffix ∧
      ∀ i, (numbered p i).fileName = stem ++ dot :: Integer.digits i ++ p.suffix := by
  refine ⟨fun _ _ => place_numbered_injective, place_numbered_ne hp, ?_, numbered_eq_withSuffix p, ?_⟩
  · intro i
    refine ⟨parent_numbered p i, ?_⟩
    rw [place_numbered, place_eq_home hp, List.dropLast_concat, List.dropLast_concat]
  · obtain ⟨stem, ending, hparted⟩ := exists_isParted p.fileName
    have hcut := hparted.cutSuffix_eq
    have hending : p.suffix = ending := by rw [Location.suffix, hcut]
    rw [hending]
    refine ⟨stem, hparted, ?_⟩
    intro i
    rw [fileName_numbered, numberedName, hcut]

end Rotation

namespace NumberedBefore

def path : Location := ⟨.relative, ["logs", "x.1.log"]⟩

theorem numbered_apart_path : Location.IsName path.fileName ∧
    (Rotation.numbered path 1).place ≠ (Rotation.numbered path 11).place ∧
    (Rotation.numbered path 1).place ≠ path.place ∧
    (Rotation.numbered path 11).parent = path.parent ∧
    (Rotation.numbered path 11).fileName = "x.1.11.log" := by
  have hname : Location.IsName path.fileName := ⟨rfl, by decide⟩
  obtain ⟨hpairs, hown, hparent, _⟩ := Rotation.numbered_apart hname
  refine ⟨hname, ?_, hown 1, (hparent 11).1, rfl⟩
  intro h
  have := hpairs 1 11 h
  omega

end NumberedBefore

end DriveBridge
