import EntityScaffold.Text.Blank

/-!
Fragments of code that are written entry by entry and put into a template afterwards. The
template decides where the first entry lands, so a finished fragment has no white space around it.
-/

namespace EntityScaffold

/-- One level of indentation in generated code. -/
inductive Indent where
  | spaces (width : Nat)
  | tab
  deriving DecidableEq, Repr

namespace Indent

def standard : Indent := .spaces 4

/-- The white space before a line at a level. -/
def leading (level : Nat) : Indent → String
  | .spaces width => .ofList (List.replicate (width * level) ' ')
  | .tab => .ofList (List.replicate level '\t')

end Indent

/-- How an entry is set apart from the next one. -/
inductive Joiner where
  /-- Every entry ends its line. -/
  | lines
  /-- A text stands between two entries. -/
  | separated (separator : String)
  deriving DecidableEq, Repr

structure Fragment where
  indent : Indent
  level : Nat
  joiner : Joiner
  written : String := ""
  deriving DecidableEq, Repr

namespace Fragment

/-- Add an entry at the fragment's level. A separator goes before every entry but the first. -/
def push (fragment : Fragment) (first : Bool) (entry : String) : Fragment :=
  let before :=
    match fragment.joiner with
    | .separated separator => if first then "" else separator
    | .lines => ""
  let after := match fragment.joiner with
    | .separated _ => ""
    | .lines => "\n"
  { fragment with
    written := fragment.written ++ before ++ fragment.indent.leading fragment.level ++ entry ++ after }

/-- Add entries in order to a fragment that has none yet. -/
def pushAll (fragment : Fragment) : List String → Fragment
  | [] => fragment
  | entry :: entries => entries.foldl (·.push false ·) (fragment.push true entry)

def text (fragment : Fragment) : String := Text.trim fragment.written

end Fragment

end EntityScaffold
