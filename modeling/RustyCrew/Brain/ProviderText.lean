import RustyCrew.Library.Text

namespace RustyCrew.Brain

/-! ## Text that a continuation repeats

Texts are lists of characters: every cut the source makes in a text falls between characters. -/

/-- What is passed on of a delta, and what of the earlier text it may still be followed by. -/
def suppressReplayedPrefix (overlap delta : List Char) : List Char × List Char :=
  if overlap = [] ∨ delta = [] then (delta, overlap)
  else if delta <+: overlap then ([], overlap.drop delta.length)
  else if overlap <+: delta then (delta.drop overlap.length, [])
  else (delta, [])

def suppressResponsesReplayedPrefix (overlap delta : List Char) : List Char × List Char :=
  suppressReplayedPrefix overlap delta

/-- One kind of output, text or reasoning: what of the earlier output may still be repeated, and
what was passed on. The observers treat the two kinds alike. -/
structure OutputProjection where
  (pendingOverlap projected : List Char)
  deriving DecidableEq

/-- The observer of a chat-completions stream. -/
def observeChatDelta (projection : OutputProjection) (delta : List Char) : OutputProjection :=
  let (text, overlap) := suppressReplayedPrefix projection.pendingOverlap delta
  ⟨overlap, projection.projected ++ text⟩

def projectedStreamingItemFromProviderEvent (projection : OutputProjection) (delta : List Char) :
    OutputProjection :=
  let (text, overlap) := suppressResponsesReplayedPrefix projection.pendingOverlap delta
  if text = [] then { projection with pendingOverlap := overlap }
  else ⟨overlap, projection.projected ++ text⟩

/-! ## Literal think tags -/

inductive LiteralThinkEvent where
  | text (chars : List Char)
  | reasoning (chars : List Char)
  deriving DecidableEq

namespace LiteralThinkEvent

def chars : LiteralThinkEvent → List Char
  | .text chars | .reasoning chars => chars

def isReasoning : LiteralThinkEvent → Bool
  | .text _ => false
  | .reasoning _ => true

/-- The event for output outside of the tags, or for output between them. -/
def of (inThink : Bool) (chars : List Char) : LiteralThinkEvent :=
  if inThink then .reasoning chars else .text chars

end LiteralThinkEvent

structure LiteralThinkScanner where
  buffer : List Char
  inThink : Bool
  deriving DecidableEq

namespace LiteralThinkScanner

/-- The tag that ends the present segment. -/
def tag (inThink : Bool) : List Char := (if inThink then "</think>" else "<think>").toList

theorem length_tag_pos (inThink : Bool) : 0 < (tag inThink).length := by
  cases inThink <;> decide

def find (tag text : List Char) : Option Nat := text.tails.findIdx? fun tail => tag <+: tail

def partialTagSuffixLen (text tag : List Char) : Nat :=
  Nat.findGreatest (fun len => text.drop (text.length - len) <+: tag)
    (min text.length (tag.length - 1))

def pushLiteralEvent (events : List LiteralThinkEvent) (event : LiteralThinkEvent) :
    List LiteralThinkEvent :=
  if event.chars = [] then events else events ++ [event]

/-- The two branches of the loop differ in the tag and in the kind of the event only. -/
def drain (finishing : Bool) (events : List LiteralThinkEvent) (scanner : LiteralThinkScanner) :
    List LiteralThinkEvent × LiteralThinkScanner :=
  if scanner.buffer = [] then (events, scanner)
  else
    match find (tag scanner.inThink) scanner.buffer with
    | some position =>
      drain finishing (pushLiteralEvent events (.of scanner.inThink (scanner.buffer.take position)))
        ⟨scanner.buffer.drop (position + (tag scanner.inThink).length), !scanner.inThink⟩
    | none =>
      let keep := if finishing then 0 else partialTagSuffixLen scanner.buffer (tag scanner.inThink)
      let emitLen := scanner.buffer.length - keep
      if emitLen = 0 then (events, scanner)
      else
        (pushLiteralEvent events (.of scanner.inThink (scanner.buffer.take emitLen)),
          { scanner with buffer := scanner.buffer.drop emitLen })
termination_by scanner.buffer.length
decreasing_by
  have := List.length_pos_of_ne_nil ‹¬scanner.buffer = []›
  have := length_tag_pos scanner.inThink
  rw [List.length_drop]
  omega

def push (scanner : LiteralThinkScanner) (text : List Char) :
    List LiteralThinkEvent × LiteralThinkScanner :=
  drain false [] { scanner with buffer := scanner.buffer ++ text }

def finish (scanner : LiteralThinkScanner) : List LiteralThinkEvent × LiteralThinkScanner :=
  drain true [] scanner

end LiteralThinkScanner

end RustyCrew.Brain
