import Hypermedia.Text.Quoted
/-!
# Outlines

The one-line form in which values are shown to people who look for faults: a name, then fields in braces or arguments
in brackets.
-/
namespace Hypermedia

inductive Outline where
  | word (s : String)
  | text (s : String)
  | call (name : String) (arguments : List Outline)
  | record (name : String) (fields : List (String × Outline))
  | list (members : List Outline)
  /-- Pairs of quoted keys and values in braces. -/
  | table (entries : List (String × Outline))
  | titled (title : String) (body : Outline)

namespace Outline

def number (n : Nat) : Outline := .word (String.ofList (Nat.toDigits 10 n))

def bool (b : Bool) : Outline := .word (if b then "true" else "false")

def option {α : Type} (f : α → Outline) : Option α → Outline
  | some a => .call "Some" [f a]
  | none => .word "None"

mutual

def render : Outline → String
  | .word s => s
  | .text s => Text.quoted s
  | .call name arguments => name ++ "(" ++ ", ".intercalate (renderEach arguments) ++ ")"
  | .record name fields => name ++ " \x7b " ++ ", ".intercalate (renderFields fields) ++ " \x7d"
  | .list members => "[" ++ ", ".intercalate (renderEach members) ++ "]"
  | .table entries => "\x7b" ++ ", ".intercalate (renderEntries entries) ++ "\x7d"
  | .titled title body => title ++ " " ++ body.render

def renderEach : List Outline → List String
  | [] => []
  | o :: os => o.render :: renderEach os

def renderFields : List (String × Outline) → List String
  | [] => []
  | (name, o) :: fs => (name ++ ": " ++ o.render) :: renderFields fs

def renderEntries : List (String × Outline) → List String
  | [] => []
  | (key, o) :: es => (Text.quoted key ++ ": " ++ o.render) :: renderEntries es

end

end Outline
end Hypermedia
