/-
Callback pointers.

A callback that returns nothing is a function on the user context; `none` is
NULL, and invoking NULL leaves the context alone.
-/

import RNodeProtocol.Consts

namespace RNodeProtocol

def invoke {Ctx : Type} (callback : Option (Ctx → Ctx)) (context : Ctx) : Ctx :=
  match callback with
  | some callback => callback context
  | none => context

end RNodeProtocol
