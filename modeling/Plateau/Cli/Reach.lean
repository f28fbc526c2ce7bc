import Plateau.Cli.App

namespace Plateau.Cli

def configPaths (h : Host) (explicit : Option String) : List Path :=
  match explicit.filter (· != "") with
  | some text => [.ofText text]
  | none =>
    match h.valueOf? Discovery.choiceVariable with
    | some text => [.ofText text]
    | none => (Discovery.upward h.directory).map Discovery.pathIn

def sourceName? (arguments : List String) : Option String :=
  match arguments with
  | [] => none
  | name :: rest =>
    match Action.ofName? name with
    | none => none
    | some a =>
      match scan true a.command.options none rest with
      | .ok (_, others) => (others.take a.arity).head?
      | .error _ => none

/-- The paths of the files that a call may read, and whether it may read its input. -/
def reach (h : Host) (arguments : List String) : List Path × Bool :=
  match scan false root.options none arguments with
  | .error _ => ([], false)
  | .ok (uses, others) =>
    let configs := configPaths h (lastValue? .config uses)
    match sourceName? others with
    | none => (configs, false)
    | some name => (configs ++ [.ofText name], name == inputPath)

end Plateau.Cli
