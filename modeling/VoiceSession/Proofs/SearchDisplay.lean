import VoiceSession.Search
/-!
# What is shown of a search response

A part of a search response gives a section exactly when it is present and not empty, the origins
become sources in order, and the sections come as text, sources, fragment (`sections_ofResponse`).
-/

namespace VoiceSession

namespace Section

def isBlank : Section → Bool
  | .text t => t.isEmpty
  | .sources cs => cs.isEmpty
  | .fragment m => m.isEmpty

def rank : Section → Nat
  | .text _ => 0
  | .sources _ => 1
  | .fragment _ => 2

end Section

namespace SearchResult

/-- The sections of what is shown of a response, read off the response: its text if present and
not empty, its origins as sources (title and address, in order) if present and not none, its
fragment if present and not empty. -/
theorem sections_ofResponse (r : SearchResponse) :
    (ofResponse r).sections =
      ((r.searchResult.filter (· ≠ "")).map Section.text).toList ++
      ((r.origins.filter (· ≠ [])).map fun os =>
        Section.sources (os.map fun o => { title := o.siteTitle, uri := o.siteUri })).toList ++
      ((r.renderedContent.filter (· ≠ "")).map Section.fragment).toList := by
  obtain ⟨text, origins, fragment⟩ := r
  rcases origins with _ | (_ | ⟨o, os⟩) <;> simp [sections, ofResponse, nonEmpty, Option.filter_some]

theorem sections_ranked (x : SearchResult) : x.sections.Pairwise (fun s s' => s.rank < s'.rank) := by
  obtain ⟨text, sources, fragment⟩ := x
  rcases text with _ | t <;> rcases fragment with _ | m <;>
    by_cases hs : sources.isEmpty <;> simp [sections, hs, Section.rank]

theorem isBlank_of_mem_sections {r : SearchResponse} {s : Section} (hs : s ∈ (ofResponse r).sections) :
    s.isBlank = false := by
  rw [sections_ofResponse] at hs
  simp only [List.mem_append, Option.mem_toList, Option.map_eq_some_iff,
    Option.filter_eq_some_iff] at hs
  -- each section comes from a part the filter kept as not empty
  rcases hs with (⟨t, ⟨-, ht⟩, rfl⟩ | ⟨os, ⟨-, hos⟩, rfl⟩) | ⟨m, ⟨-, hm⟩, rfl⟩
  · simpa [Section.isBlank, String.isEmpty_iff] using ht
  · cases os with
    | nil => simp at hos
    | cons o os => simp [Section.isBlank]
  · simpa [Section.isBlank, String.isEmpty_iff] using hm

/-- The sections shown of a search response: its text if present and not empty, its origins as
sources (title and address, in order) if present and not none, its fragment if present and not
empty, in this order. No section on display is empty, and the kinds come in the order text,
sources, fragment, each at most once. -/
theorem displayed_sections (r : SearchResponse) :
    (ofResponse r).sections =
      ((r.searchResult.filter (· ≠ "")).map Section.text).toList ++
      ((r.origins.filter (· ≠ [])).map fun os =>
        Section.sources (os.map fun o => { title := o.siteTitle, uri := o.siteUri })).toList ++
      ((r.renderedContent.filter (· ≠ "")).map Section.fragment).toList ∧
    (∀ s ∈ (ofResponse r).sections, s.isBlank = false) ∧
    (ofResponse r).sections.Pairwise (fun s s' => s.rank < s'.rank) :=
  ⟨sections_ofResponse r, fun _ hs => isBlank_of_mem_sections hs, sections_ranked _⟩

/-- An empty text shows nothing, while the origins and the fragment show in order. -/
theorem sections_without_text :
    (ofResponse ⟨some "", some [⟨"https://a.org", "A"⟩], some "<p>"⟩).sections =
      [.sources [⟨"A", "https://a.org"⟩], .fragment "<p>"] := by
  rw [(displayed_sections _).1]
  decide

end SearchResult

end VoiceSession
