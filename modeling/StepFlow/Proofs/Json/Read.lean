import StepFlow.Json.Read
import StepFlow.Json.Write
import StepFlow.Proofs.Json.Scan
import StepFlow.Proofs.Text.Utf8

/-!
Reading what was written. A value made of nulls, texts, arrays and objects is read back from its
written form (`ofBytes?_pretty`): the form is scanned into the tokens of the value, and these are
read as the value, whatever it stands in.
-/
namespace StepFlow.Json

inductive Textual : Json → Prop
  | null : Textual .null
  | text (value : String) : Textual (.text value)
  | array {items : List Json} (all : ∀ item ∈ items, Textual item) : Textual (.array items)
  | object {members : List (String × Json)} (all : ∀ member ∈ members, Textual member.2) :
      Textual (.object members)

theorem mapM_map_of_pure {m : Type → Type} [Monad m] [LawfulMonad m] {α β γ : Type}
    (read : β → m γ) (write : α → β) (form : α → γ)
    (reads : ∀ value, read (write value) = pure (form value)) (values : List α) :
    (values.map write).mapM read = pure (values.map form) := by
  rw [List.mapM_map, show read ∘ write = fun value => pure (form value) from funext reads]
  exact List.mapM_pure

theorem mapM_map_of_back {α β : Type} (read : β → Option α) (write : α → β)
    (back : ∀ value, read (write value) = some value) (values : List α) :
    (values.map write).mapM read = some values :=
  (mapM_map_of_pure read write id back values).trans (congrArg some (List.map_id values))

mutual

def tokens : Json → List Token
  | null | unreadable => [.null]
  | bool value => [.bool value]
  | integer value => [.integer value]
  | numeral spelling => [.numeral spelling]
  | text value => [.text (some value)]
  | array [] => [.openArray, .closeArray]
  | array (first :: rest) => .openArray :: tokens first ++ itemTokens rest ++ [.closeArray]
  | object [] => [.openObject, .closeObject]
  | object ((key, first) :: rest) =>
      .openObject :: .text (some key) :: .colon :: tokens first ++ memberTokens rest ++
        [.closeObject]

def itemTokens : List Json → List Token
  | [] => []
  | item :: rest => .comma :: tokens item ++ itemTokens rest

def memberTokens : List (String × Json) → List Token
  | [] => []
  | (key, value) :: rest => .comma :: .text (some key) :: .colon :: tokens value ++ memberTokens rest

end

namespace Scan

def Tokenizes (json : Json) : Prop :=
  ∀ depth found {rest : List Char}, EndsWord rest → tokensFrom { found } (json.pretty depth ++ rest) =
    tokensFrom { found := json.tokens.reverse ++ found } rest

variable (depth : Nat) (found : List Token) {rest : List Char}

theorem endsWord_prettyItems (items : List Json) (ends : EndsWord rest) :
    EndsWord (prettyItems depth items ++ rest) := by
  cases items with
  | nil => exact ends
  | cons item items => exact endsWord_cons _ (by decide)

theorem endsWord_prettyMembers (members : List (String × Json)) (ends : EndsWord rest) :
    EndsWord (prettyMembers depth members ++ rest) := by
  cases members with
  | nil => exact ends
  | cons member members => exact endsWord_cons _ (by decide)

theorem tokensFrom_comma (rest : List Char) :
    tokensFrom { found } (',' :: rest) = tokensFrom { found := .comma :: found } rest :=
  tokensFrom_punctuation found rest rfl (by decide)

theorem tokensFrom_key (key : List Char) (rest : List Char) :
    tokensFrom { found } (quote key ++ ':' :: ' ' :: rest) =
      tokensFrom { found := .colon :: .text (some (String.ofList key)) :: found } rest := by
  rw [tokensFrom_quote, tokensFrom_punctuation _ _ rfl (by decide), tokensFrom_blank _ _ (by decide)]

theorem tokensFrom_prettyItems {items : List Json} (all : ∀ item ∈ items, Tokenizes item)
    (ends : EndsWord rest) : tokensFrom { found } (prettyItems depth items ++ rest) =
      tokensFrom { found := (itemTokens items).reverse ++ found } rest := by
  induction items generalizing found with
  | nil => rfl
  | cons item items ih =>
      have scanned := all item List.mem_cons_self depth (.comma :: found)
        (endsWord_prettyItems depth items ends)
      have later := ih (item.tokens.reverse ++ .comma :: found)
        fun item member => all item (List.mem_cons_of_mem _ member)
      simp only [prettyItems, List.append_assoc, List.cons_append, tokensFrom_comma,
        tokensFrom_newline, scanned, later, itemTokens, List.reverse_cons, List.reverse_append,
        List.nil_append]

theorem tokensFrom_prettyMembers {members : List (String × Json)}
    (all : ∀ member ∈ members, Tokenizes member.2) (ends : EndsWord rest) :
    tokensFrom { found } (prettyMembers depth members ++ rest) =
      tokensFrom { found := (memberTokens members).reverse ++ found } rest := by
  induction members generalizing found with
  | nil => rfl
  | cons member members ih =>
      obtain ⟨key, value⟩ := member
      have scanned := all (key, value) List.mem_cons_self depth
        (.colon :: .text (some key) :: .comma :: found) (endsWord_prettyMembers depth members ends)
      have later := ih (value.tokens.reverse ++ .colon :: .text (some key) :: .comma :: found)
        fun member inside => all member (List.mem_cons_of_mem _ inside)
      simp only [prettyMembers, List.append_assoc, List.cons_append, tokensFrom_comma,
        tokensFrom_newline, tokensFrom_key, String.ofList_toList, scanned, later, memberTokens,
        List.reverse_cons, List.reverse_append, List.nil_append]

theorem tokenizes_array {items : List Json} (all : ∀ item ∈ items, Tokenizes item) :
    Tokenizes (.array items) := by
  intro depth found rest ends
  have opened (text : List Char) := tokensFrom_punctuation found text (c := '[') rfl (by decide)
  have closed (found : List Token) := tokensFrom_punctuation found rest (c := ']') rfl (by decide)
  cases items with
  | nil => simp only [pretty, tokens, List.cons_append, List.nil_append, opened, closed,
      List.reverse_cons, List.reverse_nil]
  | cons first items =>
      have behind : EndsWord (newline depth ++ ']' :: rest) := endsWord_cons _ (by decide)
      have scanned := all first List.mem_cons_self (depth + 1) (.openArray :: found)
        (endsWord_prettyItems (depth + 1) items behind)
      have later := tokensFrom_prettyItems (depth + 1) (first.tokens.reverse ++ .openArray :: found)
        (fun item member => all item (List.mem_cons_of_mem _ member)) behind
      simp only [pretty, tokens, List.append_assoc, List.cons_append, List.nil_append, opened,
        tokensFrom_newline, scanned, later, closed, List.reverse_cons, List.reverse_append,
        List.reverse_nil]

theorem tokenizes_object {members : List (String × Json)}
    (all : ∀ member ∈ members, Tokenizes member.2) : Tokenizes (.object members) := by
  intro depth found rest ends
  have opened (text : List Char) := tokensFrom_punctuation found text (c := '{') rfl (by decide)
  have closed (found : List Token) := tokensFrom_punctuation found rest (c := '}') rfl (by decide)
  cases members with
  | nil => simp only [pretty, tokens, List.cons_append, List.nil_append, opened, closed,
      List.reverse_cons, List.reverse_nil]
  | cons first members =>
      obtain ⟨key, value⟩ := first
      have behind : EndsWord (newline depth ++ '}' :: rest) := endsWord_cons _ (by decide)
      have scanned := all (key, value) List.mem_cons_self (depth + 1)
        (.colon :: .text (some key) :: .openObject :: found)
        (endsWord_prettyMembers (depth + 1) members behind)
      have later := tokensFrom_prettyMembers (depth + 1)
        (value.tokens.reverse ++ .colon :: .text (some key) :: .openObject :: found)
        (fun member inside => all member (List.mem_cons_of_mem _ inside)) behind
      simp only [pretty, tokens, List.append_assoc, List.cons_append, List.nil_append, opened,
        tokensFrom_newline, tokensFrom_key, String.ofList_toList, scanned, later, closed,
        List.reverse_cons, List.reverse_append, List.reverse_nil]

theorem tokenizes {json : Json} (textual : json.Textual) : Tokenizes json := by
  induction textual with
  | null => exact fun _ found _ ends => tokensFrom_null found _ ends
  | text value =>
      intro depth found rest _
      simp only [pretty, tokens, tokensFrom_quote, String.ofList_toList]
      rfl
  | array _ ih => exact tokenizes_array ih
  | object _ ih => exact tokenizes_object ih

theorem tokens?_pretty {json : Json} (textual : json.Textual) :
    tokens? ((json.pretty 0).map some) = some json.tokens := by
  have scanned : tokensFrom {} (json.pretty 0 ++ []) = _ :=
    tokenizes textual 0 [] (by simp [EndsWord])
  rw [List.append_nil, List.append_nil] at scanned
  rw [tokens?_map_some, scanned, tokensFrom]
  simp [finish]

end Scan

namespace Reading

def valueFrom (reading : Reading) (tokens : List Token) : Option Json :=
  (tokens.foldlM step reading).bind finish

theorem valueFrom_cons {reading next : Reading} {token : Token}
    (taken : reading.step token = some next) (rest : List Token) :
    reading.valueFrom (token :: rest) = next.valueFrom rest := by
  rw [valueFrom, List.foldlM_cons, taken]
  rfl

def Awaits (reading : Reading) (context : Context) : Prop :=
  ∀ token, token ≠ .closeArray → reading.step token = begin context token

def Parses (json : Json) : Prop := ∀ {reading context}, Awaits reading context → ∀ rest,
  reading.valueFrom (json.tokens ++ rest) = (afterValue json context).valueFrom rest

theorem awaits_beforeValue (context : Context) : Awaits (beforeValue context) context :=
  fun _ _ => rfl

theorem awaits_beforeItem (outer : Context) : Awaits (beforeItem outer) (.item [] outer) := by
  intro token opens
  cases token with
  | closeArray => exact absurd rfl opens
  | _ => rfl

theorem valueFrom_itemTokens {items : List Json} (all : ∀ item ∈ items, Parses item) (last : Json)
    (before : List Json) (outer : Context) (rest : List Token) :
    (afterValue last (.item before outer)).valueFrom (itemTokens items ++ .closeArray :: rest) =
      (afterValue (.array (before.reverse ++ last :: items)) outer).valueFrom rest := by
  induction items generalizing last before with
  | nil =>
      rw [← List.reverse_cons]
      exact valueFrom_cons rfl rest
  | cons item items ih =>
      have itself := all item List.mem_cons_self (awaits_beforeValue (.item (last :: before) outer))
      calc
        _ = (beforeValue (.item (last :: before) outer)).valueFrom
              (item.tokens ++ (itemTokens items ++ .closeArray :: rest)) := by
          rw [itemTokens, List.append_assoc]
          exact valueFrom_cons rfl _
        _ = (afterValue item (.item (last :: before) outer)).valueFrom
              (itemTokens items ++ .closeArray :: rest) := itself _
        _ = (afterValue (.array ((last :: before).reverse ++ item :: items)) outer).valueFrom rest :=
          ih (fun item member => all item (List.mem_cons_of_mem _ member)) item (last :: before)
        _ = _ := by rw [List.reverse_cons, List.append_assoc, List.singleton_append]

def held (member : String × Json) : Option String × Json := (some member.1, member.2)

theorem ofMembers_held (members : List (String × Json)) :
    ofMembers (members.map held) = .object members := by
  rw [ofMembers, mapM_map_of_back _ held]
  intro member
  rfl

theorem valueFrom_memberTokens {members : List (String × Json)}
    (all : ∀ member ∈ members, Parses member.2) (key : String) (last : Json)
    (before : List (String × Json)) (outer : Context) (rest : List Token) :
    (afterValue last (.member (before.map held) (some key) outer)).valueFrom
        (memberTokens members ++ .closeObject :: rest) =
      (afterValue (.object (before.reverse ++ (key, last) :: members)) outer).valueFrom rest := by
  induction members generalizing key last before with
  | nil =>
      rw [← List.reverse_cons, ← ofMembers_held, List.map_reverse]
      exact valueFrom_cons rfl rest
  | cons member members ih =>
      obtain ⟨newKey, value⟩ := member
      have itself := all (newKey, value) List.mem_cons_self (awaits_beforeValue
        (.member (((key, last) :: before).map held) (some newKey) outer))
      calc
        _ = (beforeKey (((key, last) :: before).map held) outer).valueFrom
              (.text (some newKey) :: .colon ::
                value.tokens ++ (memberTokens members ++ .closeObject :: rest)) := by
          rw [memberTokens, List.append_assoc]
          exact valueFrom_cons rfl _
        _ = (beforeValue (.member (((key, last) :: before).map held) (some newKey) outer)).valueFrom
              (value.tokens ++ (memberTokens members ++ .closeObject :: rest)) :=
          (valueFrom_cons rfl _).trans (valueFrom_cons rfl _)
        _ = (afterValue value (.member (((key, last) :: before).map held) (some newKey)
              outer)).valueFrom (memberTokens members ++ .closeObject :: rest) := itself _
        _ = (afterValue (.object (((key, last) :: before).reverse ++ (newKey, value) :: members))
              outer).valueFrom rest :=
          ih (fun member inside => all member (List.mem_cons_of_mem _ inside)) newKey value
            ((key, last) :: before)
        _ = _ := by rw [List.reverse_cons, List.append_assoc, List.singleton_append]

theorem parses_array {items : List Json} (all : ∀ item ∈ items, Parses item) :
    Parses (.array items) := by
  intro reading context awaits rest
  have opened : reading.step .openArray = some (beforeItem context) := awaits _ (by decide)
  cases items with
  | nil => exact (valueFrom_cons opened _).trans (valueFrom_cons rfl rest)
  | cons first items =>
      have itself := all first List.mem_cons_self (awaits_beforeItem context)
      calc
        _ = (beforeItem context).valueFrom
              (first.tokens ++ (itemTokens items ++ .closeArray :: rest)) := by
          simp only [tokens, List.append_assoc, List.cons_append, List.nil_append]
          exact valueFrom_cons opened _
        _ = (afterValue first (.item [] context)).valueFrom
              (itemTokens items ++ .closeArray :: rest) := itself _
        _ = _ := valueFrom_itemTokens
          (fun item member => all item (List.mem_cons_of_mem _ member)) first [] context rest

theorem parses_object {members : List (String × Json)} (all : ∀ member ∈ members, Parses member.2) :
    Parses (.object members) := by
  intro reading context awaits rest
  have opened : reading.step .openObject = some (beforeMember context) := awaits _ (by decide)
  cases members with
  | nil => exact (valueFrom_cons opened _).trans (valueFrom_cons rfl rest)
  | cons first members =>
      obtain ⟨key, value⟩ := first
      have itself := all (key, value) List.mem_cons_self
        (awaits_beforeValue (.member [] (some key) context))
      calc
        _ = (beforeMember context).valueFrom (.text (some key) :: .colon ::
              value.tokens ++ (memberTokens members ++ .closeObject :: rest)) := by
          simp only [tokens, List.append_assoc, List.cons_append, List.nil_append]
          exact valueFrom_cons opened _
        _ = (beforeValue (.member [] (some key) context)).valueFrom
              (value.tokens ++ (memberTokens members ++ .closeObject :: rest)) :=
          (valueFrom_cons rfl _).trans (valueFrom_cons rfl _)
        _ = (afterValue value (.member [] (some key) context)).valueFrom
              (memberTokens members ++ .closeObject :: rest) := itself _
        _ = _ := valueFrom_memberTokens
          (fun member inside => all member (List.mem_cons_of_mem _ inside)) key value [] context rest

theorem parses {json : Json} (textual : json.Textual) : Parses json := by
  induction textual with
  | null =>
      intro reading context awaits rest
      exact valueFrom_cons (awaits .null (by simp)) rest
  | text value =>
      intro reading context awaits rest
      exact valueFrom_cons (awaits (.text (some value)) (by simp)) rest
  | array _ ih => exact parses_array ih
  | object _ ih => exact parses_object ih

end Reading

theorem ofTokens?_tokens {json : Json} (textual : json.Textual) : ofTokens? json.tokens = some json := by
  have read : (Reading.beforeValue .top).valueFrom (json.tokens ++ []) = _ :=
    Reading.parses textual (Reading.awaits_beforeValue .top) []
  rw [List.append_nil] at read
  exact read

theorem ofChars?_pretty {json : Json} (textual : json.Textual) :
    ofChars? ((json.pretty 0).map some) = some json := by
  rw [ofChars?, Scan.tokens?_pretty textual, Option.bind_some, ofTokens?_tokens textual]

theorem ofBytes?_pretty {json : Json} (textual : json.Textual) :
    ofBytes? (Text.encodeUtf8 (json.pretty 0)) = some json := by
  rw [ofBytes?, Text.decodeUtf8_encodeUtf8, ofChars?_pretty textual]

theorem ofText?_render {json : Json} (textual : json.Textual) : ofText? json.render = some json := by
  rw [ofText?, render, String.toList_ofList, ofChars?_pretty textual]

end StepFlow.Json
