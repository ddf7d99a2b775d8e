import FlowScope.Json.Decode
import FlowScope.Verdict
import FlowScope.Text.Quoted

/-!
# Verdicts in JSON

A verdict as a record of the tag of its protocol and its source.
-/

namespace FlowScope.Verdict

def json (v : Verdict) : String :=
  "\x7b\"protocol\":" ++ Text.jsonQuoted v.protocol.tag ++ ",\"source\":" ++
    Text.jsonQuoted v.source ++ "\x7d"

/-- The verdict of a record, both of whose fields must be given. -/
def ofJson? (v : Json.Value) : Option Verdict := do
  match ← v.record? ["protocol", "source"] with
  | [some protocol, some source] =>
    let protocol ← protocol.name?.bind Protocol.ofTag?
    let source ← source.string?
    pure ⟨protocol, source⟩
  | _ => none

/-- The verdict written in a text. -/
def read? (text : String) : Option Verdict := (Json.Value.read? (Text.toUtf8 text)).bind ofJson?

end FlowScope.Verdict
