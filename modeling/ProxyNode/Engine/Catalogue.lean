import ProxyNode.Engine.Basic
import ProxyNode.Text.Blank

/-!
# Engine — Catalogue

Which engine a name stands for.  Two names are short; any other has two parts, a module and a member
of it, and every way in which it names no engine has a message of its own.  Which modules there are
depends on where the program runs.

* `load_empty`: without a name the plain engine is taken.
-/

namespace ProxyNode.Engine

/-- The modules that can be named, each with its members. -/
abbrev Modules := List (String × List String)

/-- The module of the engines, the engine in it, and what all engines have in common, which is not
an engine itself. -/
def engineModule : String := "engine"

def engineMember : String := "SimulatedEngine"

def abstractMember : String := "ProxyEngine"

/-- The modules of the program itself, as far as they hold engines. -/
def ownModules : Modules := [(engineModule, [abstractMember, engineMember])]

/-- The text up to the first `mark`, and the text behind it. -/
def cut (mark : Char) (cs : List Char) : List Char × List Char :=
  (cs.takeWhile fun c => c ≠ mark, (cs.dropWhile fun c => c ≠ mark).drop 1)

/-- Why a module cannot be found.  No module has modules below it, so that of a dotted name already
the first or the second part fails. -/
def missing (modules : Modules) (name : List Char) : Option String :=
  let first := name.takeWhile fun c => c ≠ '.'
  let rest := name.dropWhile fun c => c ≠ '.'
  match modules.lookup (String.ofList first) with
  | none => some s!"No module named {Text.quote (String.ofList first)}"
  | some _ =>
    if rest.isEmpty then none
    else
      let second := first ++ '.' :: (rest.drop 1).takeWhile fun c => c ≠ '.'
      let shown := Text.quote (String.ofList second)
      some s!"No module named {shown}; {Text.quote (String.ofList first)} is not a package"

def hasMember (modules : Modules) (module : String) (member : String) : Bool :=
  ((modules.lookup module).getD []).contains member

/-- The engine that `spec` names by module and member. -/
def loadMember (modules : Modules) (spec module member : String) : Except Fault Engine :=
  let shown := Text.quote spec
  match missing modules module.toList with
  | some why => .error (.config (.engineLoad shown why))
  | none =>
    if !hasMember modules module member then
      .error (.config (.engineLoad shown s!"module '{module}' has no attribute '{member}'"))
    else if module ≠ engineModule then .error (.config (.engineKind spec))
    else if member = engineMember then .ok {}
    else if member = abstractMember then
      .error (.config (.engineBuild shown
        "Can't instantiate abstract class ProxyEngine with abstract methods add_user, remove_user, start, stop"))
    else .error (.config (.engineKind spec))

/-- The engine that a setting names; an empty one stands for the plain engine. -/
def load (modules : Modules) (setting : String) : Except Fault Engine :=
  let spec := Text.strip (if setting = "" then "simulate" else setting)
  if spec = "simulate" then .ok {}
  else if spec = "simulate-traffic" then .ok { generatesTraffic := true }
  else
    let (module, member) := cut ':' spec.toList
    if module.isEmpty || member.isEmpty then .error (.config (.engineForm (Text.quote spec)))
    else if module.head? = some '.' then
      .error (.unexpected (.relativeModule (Text.quote (String.ofList module))))
    else loadMember modules spec (String.ofList module) (String.ofList member)

theorem load_empty (modules : Modules) : load modules "" = load modules "simulate" := rfl

end ProxyNode.Engine
