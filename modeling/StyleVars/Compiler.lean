import StyleVars.Interceptor
import StyleVars.Text.Printable

/-
  Stylesheet compilers as the library uses them: a compiler gets a program, search roots and
  an import hook, and ends with a text or a message. Which compiler it is does not matter.
-/

namespace StyleVars

/-- One compilation: the program text and the directories searched for imports. -/
structure RenderRequest where
  source : Text
  searchRoots : List Path
deriving DecidableEq, Repr

namespace RenderRequest

/-- The diagnostic text of a request. -/
def diagnostic (r : RenderRequest) : Text :=
  "RenderRequest \x7b source: ".toList ++ Text.quoted r.source ++ ", search_roots: [".toList
    ++ Text.joinWith ", ".toList (r.searchRoots.map fun p => Text.quoted p.text)
    ++ "], .. \x7d".toList

end RenderRequest

/-- A stylesheet compiler: with any import hook it ends with the compiled text or a message. -/
structure Compiler where
  render : {σ : Type} → ImportHook σ → RenderRequest → σ → Except Text Text × σ

namespace Compiler

/-- The compiler that asks about fixed imports and ends in a fixed way. -/
def scripted (imports : List (Text × Path)) (result : Except Text Text) : Compiler where
  render hook _ s := (result, (hook.run imports s).2)

end Compiler

end StyleVars
