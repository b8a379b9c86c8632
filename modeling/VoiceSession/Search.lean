import VoiceSession.Json.Decode
/-!
# Search responses and what is shown of them

A grounded search response has a result text, the sites it drew on and a rendered fragment, each
optional. The client shows a `SearchResult`, whose `sections` are text, citations (when there are
some) and fragment, in that order.
-/

namespace VoiceSession

open Json

/-- A site a search response cites. -/
structure Origin where
  siteUri : String
  siteTitle : String
  deriving DecidableEq, Repr

/-- A grounded search response; every part may be missing. -/
structure SearchResponse where
  searchResult : Option String := none
  origins : Option (List Origin) := none
  renderedContent : Option String := none
  deriving DecidableEq, Repr

namespace Origin

def toJson (o : Origin) : Value :=
  .object [("site_uri", .string o.siteUri), ("site_title", .string o.siteTitle)]

/-- Decodes an origin; both members are required. -/
def decode (src : Source) (v : Value) : Decoded Origin :=
  Decode.record src "struct Origin"
    (fun ms => do
      let (uri, title) ← ms.foldlM
        (fun (uri, title) (k, x) =>
          if k = "site_uri" then return (← Decode.fill "site_uri" uri (Decode.string x), title)
          else if k = "site_title" then return (uri, ← Decode.fill "site_title" title (Decode.string x))
          else return (uri, title))
        (none, none)
      return { siteUri := ← Decode.required "site_uri" uri,
               siteTitle := ← Decode.required "site_title" title })
    (fun items => do
      let short (n : Nat) : Decoded (Origin × Nat) :=
        .error (.ofMismatch (.invalidLength n "struct Origin with 2 elements"))
      match items with
      | x :: y :: _ => return ({ siteUri := ← Decode.string x, siteTitle := ← Decode.string y }, 2)
      | [x] => do let _ ← Decode.string x; short 1
      | [] => short 0)
    v

end Origin

namespace SearchResponse

/-- JSON form: `search_result`, `origins`, `rendered_content`, with `null` for missing parts. -/
def toJson (r : SearchResponse) : Value :=
  .object [("search_result", Value.ofOption r.searchResult),
    ("origins", match r.origins with
      | some os => .array (os.map Origin.toJson)
      | none => .null),
    ("rendered_content", Value.ofOption r.renderedContent)]

/-- Decodes a search response; each member may be missing or `null`. -/
def decode (src : Source) (v : Value) : Decoded SearchResponse :=
  let text := Decode.option Decode.string
  let origins := Decode.option (Decode.list (Origin.decode src))
  Decode.record src "struct SearchResponse"
    (fun ms => do
      let (res, os, content) ← ms.foldlM
        (fun (res, os, content) (k, x) =>
          if k = "search_result" then return (← Decode.fill "search_result" res (text x), os, content)
          else if k = "origins" then return (res, ← Decode.fill "origins" os (origins x), content)
          else if k = "rendered_content" then
            return (res, os, ← Decode.fill "rendered_content" content (text x))
          else return (res, os, content))
        (none, none, none)
      return { searchResult := res.join, origins := os.join, renderedContent := content.join })
    (fun items => do
      match items with
      | x :: y :: z :: _ =>
        return ({ searchResult := ← text x, origins := ← origins y, renderedContent := ← text z }, 3)
      | [x, y] => return ({ searchResult := ← text x, origins := ← origins y }, 2)
      | [x] => return ({ searchResult := ← text x }, 1)
      | [] => return ({}, 0))
    v

end SearchResponse

/-- A cited source as shown: title and address. -/
structure Citation where
  title : String
  uri : String
  deriving DecidableEq, Repr

def Citation.toJson (c : Citation) : Value :=
  .object [("title", .string c.title), ("uri", .string c.uri)]

/-- A part of the search region, in display order. -/
inductive Section where
  | text (text : String)
  | sources (sources : List Citation)
  | fragment (markup : String)
  deriving DecidableEq, Repr

def Section.toJson : Section → Value
  | .text t => .object [("section", .string "text"), ("text", .string t)]
  | .sources cs => .object [("section", .string "sources"), ("sources", .array (cs.map Citation.toJson))]
  | .fragment m => .object [("section", .string "fragment"), ("markup", .string m)]

/-- The search result on display. -/
structure SearchResult where
  resultText : Option String := none
  sources : List Citation := []
  renderedFragment : Option String := none
  deriving DecidableEq, Repr

namespace SearchResult

def nonEmpty (s : Option String) : Option String := s.filter (· ≠ "")

def ofResponse (r : SearchResponse) : SearchResult :=
  { resultText := nonEmpty r.searchResult,
    sources := (r.origins.getD []).map fun o => { title := o.siteTitle, uri := o.siteUri },
    renderedFragment := nonEmpty r.renderedContent }

def sections (r : SearchResult) : List Section :=
  (r.resultText.map Section.text).toList ++
  (if r.sources.isEmpty then [] else [Section.sources r.sources]) ++
  (r.renderedFragment.map Section.fragment).toList

def toJson (r : SearchResult) : Value :=
  .object [("result_text", Value.ofOption r.resultText),
    ("sources", .array (r.sources.map Citation.toJson)),
    ("rendered_fragment", Value.ofOption r.renderedFragment)]

end SearchResult

end VoiceSession
