import Hypermedia.Accessor.Table
/-!
# Chains of handlers

A call of an accessor is run by the first handler of a chain that claims the accessor.  A chain fits an accessor table
when every declared accessor is claimed by exactly one handler, so that the order of the chain does not matter for it.
-/
namespace Hypermedia

structure Handler (κ ρ : Type) where
  name : String
  claims : Accessor κ → Bool
  run : Accessor κ → List Json → ρ

abbrev Chain (κ ρ : Type) := List (Handler κ ρ)

namespace Chain

variable {κ ρ : Type}

def claimants (c : Chain κ ρ) (a : Accessor κ) : List String := (c.filter (·.claims a)).map (·.name)

def fault? (c : Chain κ ρ) (a : Accessor κ) : Option ProxyFault :=
  match c.claimants a with
  | [] => some (.unhandled a.name)
  | [_] => none
  | names => some (.contested a.name names)

/-- Checks that a chain fits a table; the first accessor that it does not fit is reported. -/
def check (c : Chain κ ρ) (t : AccessorTable κ) : Outcome Unit :=
  match t.accessors.findSome? c.fault? with
  | some fault => .error (.proxy t.owner fault)
  | none => .ok ()

def handler? (c : Chain κ ρ) (a : Accessor κ) : Option (Handler κ ρ) := c.find? (·.claims a)

/-- Runs a call, or gives `unhandled` when no handler claims the accessor. -/
def run (c : Chain κ ρ) (unhandled : ρ) (a : Accessor κ) (args : List Json) : ρ :=
  match c.handler? a with
  | some h => h.run a args
  | none => unhandled

end Chain
end Hypermedia
