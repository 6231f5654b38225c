import BatchedSave.Program.Request

/-!
# Scripted stores

A store that answers from a list of responses, one for each executed command, and serves the
results from memory. When the list is used up it answers without result sets.
-/
namespace BatchedSave

structure ScriptedStore where
  responses : List (Except Error (List ResultSet)) := []
  cursor : Cursor := .empty

namespace ScriptedStore

/-- The response to the next command, as a cursor over its result sets. -/
def respond (s : ScriptedStore) : Except Error Cursor × ScriptedStore :=
  match s.responses with
  | [] => (.ok .empty, s)
  | r :: rest => (r.map .ofSets, { s with responses := rest })

/-- The first value of the first row; none if there is no row. -/
def firstValue (c : Cursor) : Except Error (Option Value) :=
  let (moved, c) := c.nextRow
  if moved then (c.value 0).map some else .ok none

/-- Serves one call. The count of affected rows is the first value, if that is a count. -/
def serve (s : ScriptedStore) : (call : StoreCall) → Except Error call.Result × ScriptedStore
  | .connect => (.ok (), s)
  | .query _ =>
    match s.respond with
    | (.ok cursor, s) => (.ok (), { s with cursor })
    | (.error e, s) => (.error e, s)
  | .change _ =>
    let (c, s) := s.respond
    ((c >>= firstValue).map fun v => ((v.getD .null).rowCount?).getD 0, s)
  | .scalar _ =>
    let (c, s) := s.respond
    ((c >>= firstValue).map fun v => v.getD .null, s)
  | .reader call =>
    let (result, cursor) := s.cursor.serve call
    (result, { s with cursor })

end ScriptedStore

end BatchedSave
