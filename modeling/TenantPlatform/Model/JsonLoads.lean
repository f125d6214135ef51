import TenantPlatform.Data.Json
import TenantPlatform.Model.Database

/-! # `json.loads`, of the objects that webhooks carry

A flat object of texts, integers and nulls is read as its pairs, in their order. Any other
document is none that the platform writes, and is refused. -/

namespace TenantPlatform

def skipBlanks (text : List Char) : List Char :=
  text.dropWhile (fun c => c = ' ' || c = '\t' || c = '\n' || c = '\r')

def loadScalar : List Char → Option (JsonScalar × List Char)
  | '"' :: rest => (Json.readText rest).map (fun r => (.str (.ofList r.1), r.2))
  | 'n' :: 'u' :: 'l' :: 'l' :: rest => some (.null, rest)
  | text => (Json.readInt text).map (fun r => (.int r.1, r.2))

/-- A key, a colon and a value. -/
def loadEntry : List Char → Option ((String × JsonScalar) × List Char)
  | '"' :: rest => do
      let (key, rest) ← Json.readText rest
      match skipBlanks rest with
      | ':' :: rest => do
          let (value, rest) ← loadScalar (skipBlanks rest)
          return ((.ofList key, value), rest)
      | _ => none
  | _ => none

/-- The pairs up to the closing brace, and what follows it. -/
def loadEntries : ℕ → List Char → Option (Payload × List Char)
  | 0, _ => none
  | fuel + 1, text => do
      let (entry, rest) ← loadEntry (skipBlanks text)
      match skipBlanks rest with
      | ',' :: rest => do
          let (entries, rest) ← loadEntries fuel rest
          return (entry :: entries, rest)
      | '\x7d' :: rest => return ([entry], rest)
      | _ => none

/-- An object after its opening brace, and what follows it. -/
def loadObject (text : List Char) : Option (Payload × List Char) :=
  match skipBlanks text with
  | '\x7d' :: rest => some ([], rest)
  | _ => loadEntries text.length text

def jsonLoads (document : String) : Option Payload :=
  match skipBlanks document.toList with
  | '\x7b' :: text =>
      (loadObject text).bind (fun r => if skipBlanks r.2 = [] then some r.1 else none)
  | _ => none

end TenantPlatform
