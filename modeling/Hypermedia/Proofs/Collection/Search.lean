import Hypermedia.Collection
import Hypermedia.Proofs.Uri.Ascent
import Hypermedia.Proofs.Uri.Form
/-!
# Searching by a parameter

The address of a search is the address of the search path with one more pair in its query.  Read as a form, its query
holds the pairs that were there before, those of the search path or else those of the collection, and then the name and
the value with all their characters (`searchUri_pairs`).  No value can add or change another pair, and two values are
never looked up at the same address.
-/
namespace Hypermedia

namespace Uri

theorem query_setPath (u : Uri) (path : String) : (u.setPath path).query = u.query := by
  unfold setPath
  simp only
  split
  · rfl
  · split <;> rfl

/-- **The pairs of an address that a text is appended to** are those of the text's query, or its own if the text has
none. -/
theorem read_query_append (u : Uri) (path : String) :
    Form.read (u.append path).query =
      match queryPart? path with
      | some q => Form.pairs (significant (String.ofList q))
      | none => Form.read u.query := by
  rw [append_parts u path]
  rcases queryPart? path with _ | q
  · exact congrArg Form.read (query_setPath u _)
  · simp only [setQuery, Form.read, Option.getD_some, String.toList_ofList]
    exact Form.pairs_encode _ _

/-- Slashes at the start of a text are not in its query. -/
theorem splitFirst_dropWhile : ∀ cs : List Char,
    (Text.splitFirst '?' (cs.dropWhile (· == '/'))).2 = (Text.splitFirst '?' cs).2
  | [] => rfl
  | c :: cs => by
    rw [List.dropWhile_cons]
    split
    · rename_i hslash
      rw [splitFirst_dropWhile cs, Text.splitFirst, eq_of_beq hslash]
      rfl
    · rfl

end Uri

namespace Collection

variable {S : Schema} {t : S.Ty}

/-- The path of a search, below the collection. -/
def searchPath (path : String) : String := "/search/" ++ String.ofList (path.toList.dropWhile (· == '/'))

theorem queryPart?_searchPath (path : String) : Uri.queryPart? (searchPath path) = Uri.queryPart? path := by
  have hchars : (searchPath path).toList = "/search/".toList ++ path.toList.dropWhile (· == '/') :=
    String.toList_append.trans (congrArg _ String.toList_ofList)
  have hsplit := Text.splitFirst_of_not_mem_append (path.toList.dropWhile (· == '/'))
    (show '?' ∉ "/search/".toList by decide)
  rw [Uri.queryPart?, hchars, hsplit, Uri.splitFirst_dropWhile, Uri.queryPart?]

/-- **What a search asks for.**  The query of its address, read as a form, holds the pairs that stood there before the
parameter was added and then the parameter, and nothing else, whatever characters the name and the value are made of.
Before it stood the pairs of the query of the search path, or those of the collection if the path has no query.  Two
values are asked for at the same address just if they are the same value. -/
theorem searchUri_pairs (c : Collection S t) (path name value : String) :
    let before := c.uri.append (searchPath path)
    c.searchUri path name value = { before with query := (c.searchUri path name value).query } ∧
    Form.read (c.searchUri path name value).query = Form.read before.query ++ [(name, value)] ∧
    (Form.read before.query =
      match Uri.queryPart? path with
      | some q => Form.pairs (Uri.significant (String.ofList q))
      | none => Form.read c.uri.query) ∧
    ∀ value', (c.searchUri path name value).text = (c.searchUri path name value').text ↔ value = value' := by
  intro before
  have hpairs : ∀ value, Form.read (c.searchUri path name value).query = Form.read before.query ++ [(name, value)] :=
    Form.read_append before.query name
  refine ⟨rfl, hpairs value, ?_, fun value' => ⟨fun htext => ?_, fun hvalue => by rw [hvalue]⟩⟩
  · rw [Uri.read_query_append, queryPart?_searchPath]
  · have hquery : (c.searchUri path name value).query = (c.searchUri path name value').query :=
      congrArg some (Uri.text_query_inj.1 htext)
    have hread := congrArg Form.read hquery
    rw [hpairs value, hpairs value'] at hread
    exact congrArg Prod.snd (List.singleton_inj.1 (List.append_cancel_left hread))

end Collection
end Hypermedia
