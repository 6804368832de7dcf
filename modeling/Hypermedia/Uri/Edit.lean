import Hypermedia.Uri.Parse
/-!
# Changing addresses

A new path is read like the path of an address text, except that question marks and number signs belong to it; a new
query is encoded like the query of an address text.
-/
namespace Hypermedia
namespace Uri

def setPath (u : Uri) (path : String) : Uri :=
  let cs := significant path
  if u.isOpaque then
    let encoded := fun ds => Percent.encode Percent.control ds
    { u with path := String.ofList (match path.toList with
      | '/' :: ds => '%' :: '2' :: 'F' :: encoded (ds.filter (!isIgnored ·))
      | _ => encoded cs) }
  else
    let file := u.scheme == "file"
    let hierarchical := fun ds => Path.ofSegments file (Path.readFrom file u.isSpecial [] ds)
    match cs with
    | c :: rest => { u with path := hierarchical (if Path.isSeparator u.isSpecial c then rest else cs) }
    | [] => { u with path := if u.isSpecial then "/" else "" }

def setQuery (u : Uri) (query : String) : Uri :=
  { u with query := some (String.ofList (Percent.encode (Percent.querySet u.isSpecial) (significant query))) }

end Uri
end Hypermedia
