import BatchedSave.Program.Manner

/-!
# Scripts

The statement text of a batch, kept as far as it has been rendered. A rendered script ends in
exactly one footer, which is asked for once and put back after each later rendering. What a
failing dialect appended is dropped: a failed rendering leaves the script as it was.
-/
namespace BatchedSave

/-- The text, how many commands are in it, where its footer starts, and the footer. -/
structure Script where
  text : String := ""
  rendered : Nat := 0
  footerAt : Option Nat := none
  footer : Option String := none
  deriving DecidableEq, Repr

namespace Script

/-- A new script, opened by the dialect's header. -/
def start : Program Script := do
  let header ← Program.request .header
  return { text := header }

/-- The text without its footer. -/
def body (s : Script) : String :=
  match s.footerAt with
  | some start => String.ofList (s.text.toList.take start)
  | none => s.text

/-- The fragments of commands, one after the other; the first failure ends it. -/
def fragments : List Command → Attempt String
  | [] => return ""
  | c :: rest => do
    let r ← Program.request (.fragment c)
    match r.failure with
    | some e => throw e
    | none => return r.text ++ (← fragments rest)

/-- The footer, asked for if it has not been yet. -/
def closing (s : Script) : Program String :=
  match s.footer with
  | some footer => return footer
  | none => Program.request .footer

/-- Renders the commands that are not in the text yet. -/
def render (s : Script) (commands : List Command) : Program (Script × Except Error String) :=
  if s.rendered = commands.length ∧ s.footerAt.isSome then return (s, .ok s.text)
  else do
    match ← (fragments (commands.drop s.rendered)).run with
    | .error e => return (s, .error e)
    | .ok added =>
      let body := s.body ++ added
      let footer ← s.closing
      let s : Script :=
        { text := body ++ footer
          rendered := commands.length
          footerAt := some body.length
          footer := some footer }
      return (s, .ok s.text)

end Script

end BatchedSave
