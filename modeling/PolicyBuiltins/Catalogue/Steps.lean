/-
# Making a draft in steps

A draft is made by registering built-ins and choosing settings, in any order.  Each step is
answered: with nothing if it is carried out, and with a failure if it is refused.  The
steps behind a refused one go on from the draft in front of it.
-/

import PolicyBuiltins.Catalogue.Draft

namespace PolicyBuiltins.Draft

/-- A step in the making of a draft. -/
inductive Step where
  | register (builtin : Builtin)
  | configure (settings : Settings)

/-- The draft behind a step, and the failure if the step is refused. -/
def perform (draft : Draft) : Step → Draft × Option Failure
  | .register builtin =>
    match draft.register builtin with
    | .ok larger => (larger, none)
    | .error failure => (draft, some failure)
  | .configure settings => (draft.withSettings settings, none)

/-- The draft behind several steps. -/
def after (draft : Draft) (steps : List Step) : Draft :=
  steps.foldl (fun draft step => (draft.perform step).1) draft

/-- What each of several steps is answered. -/
def answers (draft : Draft) : List Step → List (Option Failure)
  | [] => []
  | step :: steps =>
    let (next, answer) := draft.perform step
    answer :: next.answers steps

end PolicyBuiltins.Draft
