import DriveBridge.Proofs.Path.NullTerminated
import DriveBridge.Proofs.Path.Restriction
import DriveBridge.Proofs.Path.Segments

namespace DriveBridge

open CodePoint

namespace HostPath

theorem slash_not_mem_encode_of_mem_segments {q : HostPath} {segment : Text}
    (h : segment ∈ q.segments) : 0x2F ∉ Utf8.encode segment := by
  rw [Utf8.ascii_mem_encode_iff (by decide)]
  rintro ⟨c, hc, hslash⟩
  obtain rfl : c = slash := Fin.ext hslash
  exact slash_not_mem_of_mem_segments h hc

theorem splitOn_encode (q : HostPath) :
    (Utf8.encode q.text).splitOn 0x2F = q.segments.map Utf8.encode := by
  have hne : q.segments.map Utf8.encode ≠ [] := by
    rw [ne_eq, List.map_eq_nil_iff]
    exact Text.split_ne_nil _ _
  have hfree : ∀ piece ∈ q.segments.map Utf8.encode, 0x2F ∉ piece := by
    rw [List.forall_mem_map]
    exact fun _ => slash_not_mem_encode_of_mem_segments
  have hjoin := Utf8.encode_join (c := slash) (by decide) q.segments
  rw [join_segments] at hjoin
  rw [hjoin]
  exact List.splitOn_intercalate 0x2F hfree hne

theorem exists_segments_of_nullTerminated {q : HostPath} (h : 0 ∉ q.text) :
    ∃ body, q.nullTerminated = .ok (body ++ [0]) ∧
      body.splitOn 0x2F = q.segments.map Utf8.encode :=
  ⟨Utf8.encode q.text, nullTerminated_of_not_mem h, q.splitOn_encode⟩

end HostPath

namespace ClientPath

theorem zero_not_mem_toHost {p : ClientPath} (h : 0 ∉ p.text) : 0 ∉ p.toHost.text := by
  intro hzero
  obtain ⟨c, hc, hreplaced⟩ := List.mem_map.mp (mem_of_mem_dropRoot hzero)
  split at hreplaced
  · cases hreplaced
  · exact h (hreplaced ▸ hc)

theorem backslash_not_mem_encode_toHost (p : ClientPath) : 0x5C ∉ Utf8.encode p.toHost.text := by
  rw [Utf8.ascii_mem_encode_iff (by decide)]
  rintro ⟨c, hc, hbackslash⟩
  obtain rfl : c = backslash := Fin.ext hbackslash
  exact p.backslash_not_mem_toHost hc

/-- Cut at slashes, the octets of a path are those of its segments, and a path of the client has lost
all its backslashes in octets as well. -/
theorem segments_in_octets (q : HostPath) (p : ClientPath) :
    (0 ∉ q.text → ∃ body, q.nullTerminated = .ok (body ++ [0]) ∧
      body.splitOn 0x2F = q.segments.map Utf8.encode) ∧
    (0 ∉ p.text → ∃ octets, p.toHost.nullTerminated = .ok octets ∧ 0x5C ∉ octets) := by
  refine ⟨HostPath.exists_segments_of_nullTerminated, ?_⟩
  intro hp
  refine ⟨_, HostPath.nullTerminated_of_not_mem (zero_not_mem_toHost hp), ?_⟩
  rw [List.mem_append, not_or]
  exact ⟨p.backslash_not_mem_encode_toHost, by decide⟩

def alikeSlash : Text := [slash, 0x12F, backslash, 0xD82F, slash, 0x1F62F]

theorem segments_alikeSlash : 0 ∉ alikeSlash ∧
    (∃ body, (HostPath.mk alikeSlash).nullTerminated = .ok (body ++ [0]) ∧
      body.splitOn 0x2F =
        [[], [0xC4, 0xAF, 0x5C, 0xED, 0xA0, 0xAF], [0xF0, 0x9F, 0x98, 0xAF]]) ∧
    ∃ octets, (ClientPath.mk alikeSlash).toHost.nullTerminated = .ok octets ∧ 0x5C ∉ octets := by
  have hzero : 0 ∉ alikeSlash := by decide
  obtain ⟨hsegments, hbackslash⟩ := segments_in_octets ⟨alikeSlash⟩ ⟨alikeSlash⟩
  exact ⟨hzero, hsegments hzero, hbackslash hzero⟩

end ClientPath

end DriveBridge
