import StreamingLM.Schema

/-!
Conversations: messages with a role, and the templates that turn a conversation into a prompt.
-/
namespace StreamingLM

inductive Role where
  | system
  | user
  | assistant
  | tool
  deriving DecidableEq, Repr

namespace Role

def name : Role → String
  | system => "system"
  | user => "user"
  | assistant => "assistant"
  | tool => "tool"

def ofName? (s : String) : Option Role := [system, user, assistant, tool].find? (·.name = s)

@[simp] theorem ofName?_name (r : Role) : ofName? r.name = some r := by
  cases r <;> decide

end Role

structure Message where
  role : Role
  content : String
  refusal : Option String := none
  deriving DecidableEq, Repr

def firstIndex? (part : List Char) : List Char → Option Nat
  | [] => if part.isEmpty then some 0 else none
  | c :: rest =>
    if part.isPrefixOf (c :: rest) then some 0 else (firstIndex? part rest).map (· + 1)

def lastIndex? (part : List Char) : List Char → Option Nat
  | [] => if part.isEmpty then some 0 else none
  | c :: rest =>
    match lastIndex? part rest with
    | some i => some (i + 1)
    | none => if part.isPrefixOf (c :: rest) then some 0 else none

/-- The text between the first `opening` and the last `closing`, if both are nonempty, present and
in this order. -/
def between? (opening closing content : List Char) : Option (List Char) :=
  if opening.isEmpty || closing.isEmpty then none
  else
    match firstIndex? opening content, lastIndex? closing content with
    | some first, some last =>
      let bodyStart := first + opening.length
      if last < bodyStart then none else some ((content.take last).drop bodyStart)
    | _, _ => none

namespace Message

def reader : Reader Message := .model fun entries =>
  mk <$> Reader.required (.choice Role.ofName?) "role" entries
    <*> Reader.required .text "content" entries
    <*> Reader.withDefault (.optional .text) none "refusal" entries

/-- Keep only what stands between two markers; a message without them is left as it is. -/
def cleaned (m : Message) (opening closing : String) : Message :=
  match between? opening.toList closing.toList m.content.toList with
  | some body => { m with content := String.ofList body }
  | none => m

end Message

/-- How a conversation is written as a prompt: contents alone, or contents in the markup of a model
family, ending with an open turn of the assistant. -/
inductive ChatTemplate where
  | plain
  | llama3
  | tinyLlama
  deriving DecidableEq, Repr

namespace ChatTemplate

def name : ChatTemplate → String
  | plain => "plain"
  | llama3 => "llama3"
  | tinyLlama => "tiny_llama"

def ofName? (s : String) : Option ChatTemplate := [plain, llama3, tinyLlama].find? (·.name = s)

@[simp] theorem ofName?_name (t : ChatTemplate) : ofName? t.name = some t := by
  cases t <;> decide

def llama3Turn (m : Message) : String :=
  "<|start_header_id|>" ++ m.role.name ++ "<|end_header_id|>\n\n" ++ m.content ++ "<|eot_id|>"

def tinyTurn (m : Message) : String :=
  "<|" ++ m.role.name ++ "|>\n" ++ m.content ++ "</s>\n"

def text (t : ChatTemplate) (messages : List Message) : String :=
  match t with
  | plain => String.intercalate "\n" (messages.map (·.content))
  | llama3 =>
    String.join (messages.map llama3Turn) ++ "<|start_header_id|>assistant<|end_header_id|>\n\n"
  | tinyLlama => String.intercalate "\n" (messages.map tinyTurn) ++ "<|assistant|>\n"

def render (t : ChatTemplate) (messages : List Message) : Except Failure String :=
  if messages.isEmpty then .error .emptyConversation else .ok (t.text messages)

end ChatTemplate
end StreamingLM
