import TokenBridge.Json.Basic
import TokenBridge.Json.Token

namespace TokenBridge.Json

inductive Frame
  | items (finished : List Json)
  | members (finished : List Member) (key : Option String)

inductive Reading
  | value (open_ : List Frame)
  | itemOrEnd (open_ : List Frame)
  | keyOrEnd (open_ : List Frame)
  | key (open_ : List Frame) (finished : List Member)
  | colon (open_ : List Frame) (finished : List Member) (key : Option String)
  | after (open_ : List Frame) (v : Json)

def startValue (stack : List Frame) : Token → Option Reading
  | .null => some (.after stack .null)
  | .bool b => some (.after stack (.bool b))
  | .number literal => some (.after stack (.number literal))
  | .string text => some (.after stack (.string text))
  | .openArray => some (.itemOrEnd stack)
  | .openObject => some (.keyOrEnd stack)
  | _ => none

def Reading.next : Reading → Token → Option Reading
  | .value stack, t => startValue stack t
  | .itemOrEnd stack, .closeArray => some (.after stack (.array []))
  | .itemOrEnd stack, t => startValue (.items [] :: stack) t
  | .keyOrEnd stack, .closeObject => some (.after stack (.object []))
  | .keyOrEnd stack, .string k => some (.colon stack [] k)
  | .key stack finished, .string k => some (.colon stack finished k)
  | .colon stack finished k, .colon => some (.value (.members finished k :: stack))
  | .after (.items finished :: stack) v, .comma => some (.value (.items (v :: finished) :: stack))
  | .after (.items finished :: stack) v, .closeArray =>
    some (.after stack (.array (v :: finished).reverse))
  | .after (.members finished k :: stack) v, .comma => some (.key stack ((k, v) :: finished))
  | .after (.members finished k :: stack) v, .closeObject =>
    some (.after stack (.object ((k, v) :: finished).reverse))
  | _, _ => none

def Reading.result? : Reading → Option Json
  | .after [] v => some v
  | _ => none

def ofTokens? (ts : List Token) : Option Json := do
  let final ← ts.foldlM Reading.next (.value [])
  final.result?

def read (s : List Char) : Option Json := do
  ofTokens? (← tokens s)

end TokenBridge.Json
