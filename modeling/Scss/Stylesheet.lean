import Scss.Declaration
import Scss.Scope

/-!
# Compiling a stylesheet

To compile a stylesheet is to take its declarations out, to put the declared values where the
variables are mentioned, and to report the variables that are mentioned and nowhere declared. The
last declaration of a name counts for the whole text. Values are put in one variable after another, in
an order that is left open.

* `Stylesheet.compile`: the result for a source.
* `Stylesheet.body`, `Stylesheet.diagnostic`, `Stylesheet.layout`: what the css is made of.
-/

namespace Scss

/-- What compiling a stylesheet gives. -/
structure Compiled where
  /-- The plain css, behind one line for each undefined variable. -/
  css : Text
  /-- The declared variables. -/
  scope : Scope
  /-- The variables that are mentioned and not declared, in the order of their first mention. -/
  undefined : List Text

/-- Whether a variable was left without a value. -/
def Compiled.hasErrors (c : Compiled) : Bool :=
  !c.undefined.isEmpty

namespace Stylesheet

/-- The variables that a source declares. -/
def scope (source : Text) : Scope :=
  .ofBindings (Declaration.all source)

/-- The variables that a source mentions and does not declare. -/
def undefined (source : Text) : List Text :=
  let declared := scope source
  (Variable.usages source).filter fun name => !declared.contains name

/-- The source without its declarations and with values for its variables, put in one after another
in the given order. -/
def body (order : List Binding) (source : Text) : Text :=
  Variable.substituteAll order (Declaration.strip source)

/-- The line that reports an undefined variable. -/
def diagnostic (name : Text) : Text :=
  "/* Error: ".toList ++ name ++ " not defined. */".toList

/-- The diagnostics, a line each, and the body behind them. -/
def layout (undefined : List Text) (body : Text) : Text :=
  Text.joined ['\n'] (undefined.map diagnostic ++ [body])

/-- Compiles a source, its variables substituted in the given order. -/
def compileIn (order : List Binding) (source : Text) : Compiled where
  css := layout (undefined source) (body order source)
  scope := scope source
  undefined := undefined source

/-- Compiles a source, going through its variables in the given way. -/
def compile (order : Scope.Order) (source : Text) : Compiled :=
  compileIn (order.visit (scope source)) source

end Stylesheet

end Scss
