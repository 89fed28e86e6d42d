import MusicLibrary.Session
import Mathlib.Data.List.TakeWhile

/-!
# The base address of a session

The address of a server is kept without the white space around it and without the slashes at its
end. All else stays: a character that is neither white space nor a slash stands in the base address
before its last slash exactly if it stands in the address that was given (`mem_normalizeUrl_iff`).
So a session points at a server exactly if its address says more than white space and slashes
(`pointsAtServer_create_iff`).
-/

namespace MusicLibrary

/-! ### What trimming leaves -/

namespace Text

variable {p : Char → Bool} {s : List Char} {c : Char}

theorem mem_dropWhile_iff (hc : p c = false) : c ∈ s.dropWhile p ↔ c ∈ s := by
  constructor
  · exact fun h => (List.dropWhile_suffix p).mem h
  · intro h
    rw [← List.takeWhile_append_dropWhile (p := p) (l := s), List.mem_append] at h
    refine h.resolve_left fun hfront => ?_
    rw [List.mem_takeWhile_imp hfront] at hc
    cases hc

theorem mem_dropTrailing_iff (hc : p c = false) : c ∈ dropTrailing p s ↔ c ∈ s := by
  rw [dropTrailing, List.mem_reverse, mem_dropWhile_iff hc, List.mem_reverse]

theorem mem_trim_iff (hc : isBlank c = false) : c ∈ trim s ↔ c ∈ s := by
  rw [trim, mem_dropTrailing_iff hc, mem_dropWhile_iff hc]

end Text

/-! ### Addresses that name a server -/

namespace Session

/-- The address says more than white space and slashes. -/
def NamesServer (url : String) : Prop := ∃ c ∈ url.toList, Text.isBlank c = false ∧ c ≠ '/'

/-- The base address of the session says more than white space and slashes before its last slash. -/
def PointsAtServer (s : Session) : Prop := ∃ host, s.baseUrl = host ++ "/" ∧ NamesServer host

theorem mem_normalizeUrl_iff {url host : String} (h : normalizeUrl url = host ++ "/") {c : Char}
    (hblank : Text.isBlank c = false) (hslash : c ≠ '/') : c ∈ host.toList ↔ c ∈ url.toList := by
  have hhost : host.toList = Text.dropTrailing (· == '/') (Text.trim url.toList) := by
    rw [normalizeUrl, ← String.toList_inj, String.toList_ofList, String.toList_append] at h
    exact (List.append_cancel_right h).symm
  rw [hhost, Text.mem_dropTrailing_iff (by simpa using hslash), Text.mem_trim_iff hblank]

/-- **A session points at a server exactly if it is made with the name of one.** -/
theorem pointsAtServer_create_iff {url accessToken userId deviceId : String} :
    (create url accessToken userId deviceId).PointsAtServer ↔ NamesServer url := by
  constructor
  · rintro ⟨host, hhost, c, hc, hblank, hslash⟩
    exact ⟨c, (mem_normalizeUrl_iff hhost hblank hslash).mp hc, hblank, hslash⟩
  · rintro ⟨c, hc, hblank, hslash⟩
    have hhost : normalizeUrl url =
        String.ofList (Text.dropTrailing (· == '/') (Text.trim url.toList)) ++ "/" := by
      rw [normalizeUrl, String.ofList_append]
    exact ⟨_, hhost, c, (mem_normalizeUrl_iff hhost hblank hslash).mpr hc, hblank, hslash⟩

end Session

end MusicLibrary
