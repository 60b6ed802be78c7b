import Frely.Providers.Equiv.StreamingJson
import Frely.Providers.JsonText
import Mathlib.Data.List.Induction

/-!
# The value of a JSON text, token by token

`feed_tokens` follows the tokens of a text through the assembly, wherever a value is expected: the
value of the text is attached there.  `exists_text` reads a text off the front of any tokens that
the assembly takes to a complete root; with `tokens_append_inj`, tokens belong to one text.
`streamingJson_exact` says both of the parser.
-/

namespace Frely.Providers

open JsonText

/-! ### Objects -/

section Dups

variable {α : Type} [BEq α] [LawfulBEq α] {l : List α} {a : α}

theorem eraseDups_concat_of_mem (h : a ∈ l) : (l ++ [a]).eraseDups = l.eraseDups := by
  rw [List.eraseDups_append]
  simp [List.removeAll, h]

theorem eraseDups_concat_of_not_mem (h : a ∉ l) : (l ++ [a]).eraseDups = l.eraseDups ++ [a] := by
  rw [List.eraseDups_append]
  simp [List.removeAll, h, List.eraseDups_cons]

end Dups

theorem keys_lastValues (members : List (JsString × JsonValue)) :
    (lastValues members).map (·.1) = (members.map (·.1)).eraseDups := by
  unfold lastValues
  rw [List.map_map]
  exact List.map_id _

/-- Members that are defined one after the other. -/
theorem lastValues_concat (members : List (JsString × JsonValue)) (key : JsString)
    (value : JsonValue) :
    lastValues (members ++ [(key, value)]) = defineProperty (lastValues members) key value := by
  have hany : (lastValues members).any (·.1 = key) = decide (key ∈ members.map (·.1)) := by
    rw [Bool.eq_iff_iff, List.any_eq_true, decide_eq_true_eq, ← List.mem_eraseDups,
      ← keys_lastValues, List.mem_map]
    simp
  unfold defineProperty
  rw [hany]
  by_cases hmem : key ∈ members.map (·.1)
  · rw [if_pos (decide_eq_true hmem)]
    unfold lastValues
    rw [List.map_append, List.map_singleton, eraseDups_concat_of_mem hmem, List.map_map]
    refine List.map_congr_left fun other _ => ?_
    by_cases hother : other = key
    · subst hother
      simp
    · simp [hother, List.lookup_cons, beq_eq_false_iff_ne.mpr hother]
  · rw [if_neg (by simpa using hmem)]
    unfold lastValues
    rw [List.map_append, List.map_singleton, eraseDups_concat_of_not_mem hmem, List.map_append]
    congr 1
    · refine List.map_congr_left fun other hother => ?_
      have hne : other ≠ key := by
        rintro rfl
        exact hmem (List.mem_eraseDups.mp hother)
      simp [List.lookup_cons, beq_eq_false_iff_ne.mpr hne]
    · simp

/-- A property that is defined twice has its second value. -/
theorem defineProperty_twice (members : List (JsString × JsonValue)) (key : JsString)
    (value last : JsonValue) :
    defineProperty (defineProperty members key value) key last =
      defineProperty members key last := by
  unfold defineProperty
  by_cases h : members.any (·.1 = key) = true
  · have h' : ((members.map fun member => if member.1 = key then (key, value) else member).any
        (·.1 = key)) = true := by
      obtain ⟨member, hmember, hkey⟩ := List.any_eq_true.mp h
      refine List.any_eq_true.mpr ⟨(key, value), List.mem_map.mpr ⟨member, hmember, ?_⟩, by simp⟩
      rw [if_pos (of_decide_eq_true hkey)]
    rw [if_pos h, if_pos h', if_pos h, List.map_map]
    refine List.map_congr_left fun member _ => ?_
    by_cases hkey : member.1 = key <;> simp [hkey]
  · have hnone : ∀ member ∈ members, member.1 ≠ key := by
      intro member hmember hkey
      exact h (List.any_eq_true.mpr ⟨member, hmember, decide_eq_true hkey⟩)
    rw [if_neg h, if_neg h, if_pos (by simp), List.map_append]
    congr 1
    · exact (List.map_congr_left fun member hmember => if_neg (hnone member hmember)).trans
        (List.map_id _)
    · simp

theorem foldl_defineProperty (members : List (JsString × JsonValue)) :
    members.foldl (fun object member => defineProperty object member.1 member.2) [] =
      lastValues members := by
  induction members using List.reverseRecOn with
  | nil => rfl
  | append_singleton members member ih =>
    rw [List.foldl_append, List.foldl_cons, List.foldl_nil, ih, lastValues_concat]

/-! ### Where a value is expected -/

variable {token : JsonToken}

/-- The assembly as `consumeValue` finds it, if a value may come next. -/
def JsonAssembly.ready (assembly : JsonAssembly) : Option JsonAssembly :=
  match assembly.stack with
  | [] => if assembly.rootComplete ∨ assembly.root.isSome then none else some assembly
  | .object frame :: rest =>
    match frame.state, frame.key with
    | .colon, some _ =>
      some { assembly with stack := .object { frame with state := .value } :: rest }
    | _, _ => none
  | .array frame :: rest =>
    match frame.state with
    | .commaOrEnd => some { assembly with stack := .array { frame with state := .value } :: rest }
    | _ => some assembly

/-- A root without open containers is complete. -/
def JsonAssembly.settle (assembly : JsonAssembly) : JsonAssembly :=
  if assembly.stack = [] then { assembly with rootComplete := true } else assembly

variable {assembly readied : JsonAssembly}

/-- The tokens that start no value. -/
def endsSomething : JsonToken → Bool
  | .endObject => true
  | .endArray => true
  | .keyValue _ => true
  | _ => false

theorem consume_of_ready (h : assembly.ready = some readied) (htoken : token ≠ .endArray) :
    assembly.consume token = readied.consumeValue token := by
  obtain ⟨stack, root, rootComplete⟩ := assembly
  cases stack with
  | nil =>
    simp only [JsonAssembly.ready] at h
    split_ifs at h with hroot
    obtain rfl := Option.some.inj h
    simp only [JsonAssembly.consume, if_neg hroot]
  | cons frame rest =>
    cases frame with
    | object frame =>
      obtain ⟨members, state, key⟩ := frame
      cases state <;> cases key <;> simp only [JsonAssembly.ready, reduceCtorEq] at h
      obtain rfl := Option.some.inj h
      rfl
    | array frame =>
      obtain ⟨items, state⟩ := frame
      cases state <;> (obtain rfl := Option.some.inj h; cases token <;>
        first | rfl | exact absurd rfl htoken)

/-- What is ready for a value takes any. -/
theorem exists_attachValue (h : assembly.ready = some readied) (value : JsonValue) :
    ∃ attached, readied.attachValue value = some attached := by
  obtain ⟨stack, root, rootComplete⟩ := assembly
  cases stack with
  | nil =>
    simp only [JsonAssembly.ready] at h
    split_ifs at h with hroot
    obtain rfl := Option.some.inj h
    have hnone : ¬root.isSome = true := fun hsome => hroot (.inr hsome)
    exact ⟨_, if_neg hnone⟩
  | cons frame rest =>
    cases frame with
    | object frame =>
      obtain ⟨members, state, key⟩ := frame
      cases state <;> cases key <;> simp only [JsonAssembly.ready, reduceCtorEq] at h
      obtain rfl := Option.some.inj h
      exact ⟨_, rfl⟩
    | array frame =>
      obtain ⟨items, state⟩ := frame
      cases state <;> (obtain rfl := Option.some.inj h; exact ⟨_, rfl⟩)

/-- A container that is attached empty and closed full was attached full. -/
theorem closeContainer_attached (hready : assembly.ready = some readied) {attached : JsonAssembly}
    {empty : JsonValue} (h : readied.attachValue empty = some attached) (frame : ContainerFrame) :
    ∃ full, readied.attachValue frame.container = some full ∧
      ({ attached with stack := frame :: attached.stack } : JsonAssembly).closeContainer =
        full.settle := by
  obtain ⟨full, hfull⟩ := exists_attachValue hready frame.container
  refine ⟨full, hfull, ?_⟩
  obtain ⟨stack, root, rootComplete⟩ := readied
  cases stack with
  | nil =>
    simp only [JsonAssembly.attachValue] at h hfull
    split_ifs at h hfull
    obtain rfl := Option.some.inj h
    obtain rfl := Option.some.inj hfull
    rfl
  | cons parent rest =>
    cases parent with
    | array parent =>
      simp only [JsonAssembly.attachValue] at h hfull
      split_ifs at h hfull
      obtain rfl := Option.some.inj h
      obtain rfl := Option.some.inj hfull
      simp [JsonAssembly.closeContainer, JsonAssembly.settle]
    | object parent =>
      obtain ⟨members, state, key⟩ := parent
      cases key with
      | none => exact absurd h (by simp [JsonAssembly.attachValue])
      | some key =>
        simp only [JsonAssembly.attachValue] at h hfull
        split_ifs at h hfull
        obtain rfl := Option.some.inj h
        obtain rfl := Option.some.inj hfull
        simp [JsonAssembly.closeContainer, JsonAssembly.settle, defineProperty_twice]

/-! ### The tokens of a text -/

variable {items : List JsonText} {members : List (JsString × JsonText)}

/-- The assembly takes the tokens of a text as it takes its value. -/
def Feeds (text : JsonText) : Prop :=
  ∀ {assembly readied : JsonAssembly}, assembly.ready = some readied →
    text.tokens.foldlM JsonAssembly.consume assembly =
      (readied.attachValue text.parse).map JsonAssembly.settle

theorem feeds_primitive {text : JsonText} (htokens : text.tokens = [token])
    (hprimitive : JsonAssembly.primitive token = some text.parse) : Feeds text := by
  intro assembly readied hready
  have htoken : token ≠ .endArray := by
    rintro rfl
    exact absurd hprimitive nofun
  rw [htokens, List.foldlM_cons, consume_of_ready hready htoken]
  simp only [JsonAssembly.consumeValue, hprimitive]
  cases readied.attachValue text.parse <;> rfl

/-- An array in which an item or the end may come next. -/
def BetweenItems (frame : ArrayFrame) : Prop :=
  frame.state = .valueOrEnd ∨ frame.state = .commaOrEnd

theorem feeds_items (h : ∀ item ∈ items, Feeds item) {rest : List ContainerFrame}
    {frame : ArrayFrame} (hframe : BetweenItems frame)
    (hstack : assembly.stack = .array frame :: rest) :
    ∃ last : ArrayFrame, BetweenItems last ∧ last.value = frame.value ++ parseItems items ∧
      (tokensOfItems items).foldlM JsonAssembly.consume assembly =
        some { assembly with stack := .array last :: rest } := by
  induction items generalizing assembly frame with
  | nil =>
    refine ⟨frame, hframe, (List.append_nil _).symm, ?_⟩
    rw [← hstack]
    rfl
  | cons item items ih =>
    obtain ⟨readied, hready, hattach⟩ : ∃ readied, assembly.ready = some readied ∧
        (readied.attachValue item.parse).map JsonAssembly.settle =
          some { assembly with
            stack := .array ⟨frame.value ++ [item.parse], .commaOrEnd⟩ :: rest } := by
      obtain ⟨stack, root, rootComplete⟩ := assembly
      obtain ⟨values, state⟩ := frame
      subst hstack
      rcases hframe with rfl | rfl
      · exact ⟨_, rfl, rfl⟩
      · exact ⟨_, rfl, rfl⟩
    have hnext : JsonAssembly.stack { assembly with
        stack := .array ⟨frame.value ++ [item.parse], .commaOrEnd⟩ :: rest } =
          .array ⟨frame.value ++ [item.parse], .commaOrEnd⟩ :: rest := rfl
    obtain ⟨last, hlast, hvalue, hrest⟩ := ih
      (fun other hother => h other (List.mem_cons_of_mem _ hother)) (.inr rfl) hnext
    refine ⟨last, hlast, ?_, ?_⟩
    · rw [hvalue, parseItems, List.append_assoc]
      rfl
    · rw [tokensOfItems, List.foldlM_append, h item List.mem_cons_self hready, hattach]
      exact hrest

/-- An object in which a key or the end may come next. -/
def BetweenMembers (frame : ObjectFrame) : Prop :=
  frame.state = .keyOrEnd ∨ frame.state = .commaOrEnd

theorem feeds_members (h : ∀ member ∈ members, Feeds member.2) {rest : List ContainerFrame}
    {frame : ObjectFrame} (hframe : BetweenMembers frame)
    (hstack : assembly.stack = .object frame :: rest) :
    ∃ last : ObjectFrame, BetweenMembers last ∧
      last.value = (parseMembers members).foldl
        (fun object member => defineProperty object member.1 member.2) frame.value ∧
      (tokensOfMembers members).foldlM JsonAssembly.consume assembly =
        some { assembly with stack := .object last :: rest } := by
  induction members generalizing assembly frame with
  | nil =>
    refine ⟨frame, hframe, rfl, ?_⟩
    rw [← hstack]
    rfl
  | cons member members ih =>
    obtain ⟨key, text⟩ := member
    obtain ⟨keyed, readied, hkey, hready, hattach⟩ : ∃ keyed readied,
        assembly.consume (.keyValue key) = some keyed ∧ keyed.ready = some readied ∧
        (readied.attachValue text.parse).map JsonAssembly.settle =
          some { assembly with
            stack := .object ⟨defineProperty frame.value key text.parse, .commaOrEnd, some key⟩ ::
              rest } := by
      obtain ⟨stack, root, rootComplete⟩ := assembly
      obtain ⟨values, state, oldKey⟩ := frame
      subst hstack
      rcases hframe with rfl | rfl
      · exact ⟨_, _, rfl, rfl, rfl⟩
      · exact ⟨_, _, rfl, rfl, rfl⟩
    have hnext : JsonAssembly.stack { assembly with
        stack := .object ⟨defineProperty frame.value key text.parse, .commaOrEnd, some key⟩ ::
          rest } =
          .object ⟨defineProperty frame.value key text.parse, .commaOrEnd, some key⟩ :: rest := rfl
    obtain ⟨last, hlast, hvalue, hrest⟩ := ih
      (fun other hother => h other (List.mem_cons_of_mem _ hother)) (.inr rfl) hnext
    refine ⟨last, hlast, hvalue, ?_⟩
    rw [tokensOfMembers, List.cons_append, List.foldlM_cons, hkey]
    change List.foldlM JsonAssembly.consume keyed (text.tokens ++ tokensOfMembers members) = _
    rw [List.foldlM_append, h (key, text) List.mem_cons_self hready, hattach]
    exact hrest

theorem feeds_array (h : ∀ item ∈ items, Feeds item) : Feeds (.array items) := by
  intro assembly readied hready
  obtain ⟨attached, hattached⟩ := exists_attachValue hready (.array [])
  have hstart : assembly.consume .startArray =
      some { attached with stack := .array ⟨[], .valueOrEnd⟩ :: attached.stack } := by
    have hne : JsonToken.startArray ≠ .endArray := by simp
    rw [consume_of_ready hready hne]
    simp only [JsonAssembly.consumeValue, JsonAssembly.primitive, hattached]
    rfl
  have hopened : JsonAssembly.stack { attached with
      stack := .array ⟨[], .valueOrEnd⟩ :: attached.stack } =
        .array ⟨[], .valueOrEnd⟩ :: attached.stack := rfl
  obtain ⟨last, hlast, hvalue, hitems⟩ := feeds_items h (.inl rfl) hopened
  obtain ⟨full, hfull, hclose⟩ := closeContainer_attached hready hattached (.array last)
  have hend : ({ attached with stack := .array last :: attached.stack } : JsonAssembly).consume
      .endArray = some full.settle := by
    rw [← hclose]
    obtain ⟨values, state⟩ := last
    rcases hlast with rfl | rfl <;> rfl
  have hparse : (JsonText.array items).parse = ContainerFrame.container (.array last) := by
    rw [ContainerFrame.container, hvalue]
    rfl
  rw [hparse, hfull, tokens, List.cons_append, List.foldlM_cons, hstart]
  change List.foldlM JsonAssembly.consume _ (tokensOfItems items ++ [.endArray]) = _
  rw [List.foldlM_append, hitems]
  change List.foldlM JsonAssembly.consume _ [.endArray] = _
  rw [List.foldlM_cons, hend]
  rfl

theorem feeds_object (h : ∀ member ∈ members, Feeds member.2) : Feeds (.object members) := by
  intro assembly readied hready
  obtain ⟨attached, hattached⟩ := exists_attachValue hready (.object [])
  have hstart : assembly.consume .startObject =
      some { attached with stack := .object ⟨[], .keyOrEnd, none⟩ :: attached.stack } := by
    have hne : JsonToken.startObject ≠ .endArray := by simp
    rw [consume_of_ready hready hne]
    simp only [JsonAssembly.consumeValue, JsonAssembly.primitive, hattached]
    rfl
  have hopened : JsonAssembly.stack { attached with
      stack := .object ⟨[], .keyOrEnd, none⟩ :: attached.stack } =
        .object ⟨[], .keyOrEnd, none⟩ :: attached.stack := rfl
  obtain ⟨last, hlast, hvalue, hmembers⟩ := feeds_members h (.inl rfl) hopened
  obtain ⟨full, hfull, hclose⟩ := closeContainer_attached hready hattached (.object last)
  have hend : ({ attached with stack := .object last :: attached.stack } : JsonAssembly).consume
      .endObject = some full.settle := by
    rw [← hclose]
    obtain ⟨values, state, key⟩ := last
    rcases hlast with rfl | rfl <;> rfl
  have hparse : (JsonText.object members).parse = ContainerFrame.container (.object last) := by
    rw [ContainerFrame.container, hvalue, foldl_defineProperty]
    rfl
  rw [hparse, hfull, tokens, List.cons_append, List.foldlM_cons, hstart]
  change List.foldlM JsonAssembly.consume _ (tokensOfMembers members ++ [.endObject]) = _
  rw [List.foldlM_append, hmembers]
  change List.foldlM JsonAssembly.consume _ [.endObject] = _
  rw [List.foldlM_cons, hend]
  rfl

/-- **The tokens of a text** are taken as its value. -/
theorem feed_tokens (text : JsonText) : Feeds text := by
  induction text using JsonText.induction with
  | null => exact feeds_primitive rfl rfl
  | bool value => cases value <;> exact feeds_primitive rfl rfl
  | number literal => exact feeds_primitive rfl rfl
  | string value => exact feeds_primitive rfl rfl
  | array items ih => exact feeds_array ih
  | object members ih => exact feeds_object ih

/-! ### Reading a text off its tokens -/

variable {ts : List JsonToken} {stack : List ContainerFrame}

/-- The root is complete, and no container is open. -/
def IsClosed (assembly : JsonAssembly) : Prop := assembly.stack = [] ∧ assembly.rootComplete = true

/-- Tokens that the assembly takes to a complete root. -/
def Closes (assembly : JsonAssembly) (ts : List JsonToken) : Prop :=
  ∃ last, ts.foldlM JsonAssembly.consume assembly = some last ∧ IsClosed last

theorem Closes.of_cons (h : Closes assembly (token :: ts)) :
    ∃ next, assembly.consume token = some next ∧ Closes next ts := by
  obtain ⟨last, hlast, hclosed⟩ := h
  rw [List.foldlM_cons] at hlast
  obtain ⟨next, hnext, hrest⟩ := Option.bind_eq_some_iff.mp hlast
  exact ⟨next, hnext, last, hrest, hclosed⟩

theorem Closes.of_append {first : List JsonToken} (h : Closes assembly (first ++ ts))
    {next : JsonAssembly} (hfirst : first.foldlM JsonAssembly.consume assembly = some next) :
    Closes next ts := by
  obtain ⟨last, hlast, hclosed⟩ := h
  rw [List.foldlM_append, hfirst] at hlast
  exact ⟨last, hlast, hclosed⟩

theorem not_closes_nil (hstack : assembly.stack ≠ []) : ¬Closes assembly [] := by
  rintro ⟨last, hlast, hclosed⟩
  obtain rfl := Option.some.inj hlast
  exact hstack hclosed.1

/-- What may stand at the front of tokens that lead to a complete root: a text where a value is
expected, items and an end in an array, members and an end in an object. -/
structure Reads (n : Nat) : Prop where
  text : ∀ {ts : List JsonToken}, ts.length ≤ n → ∀ {assembly readied : JsonAssembly},
    assembly.ready = some readied → Closes assembly ts → ts.head? ≠ some .endArray →
    ∃ (text : JsonText) (rest : List JsonToken), ts = text.tokens ++ rest
  items : ∀ {ts : List JsonToken}, ts.length ≤ n → ∀ {assembly : JsonAssembly} {frame : ArrayFrame}
    {stack : List ContainerFrame}, assembly.stack = .array frame :: stack → BetweenItems frame →
    Closes assembly ts →
    ∃ (items : List JsonText) (rest : List JsonToken), ts = tokensOfItems items ++ .endArray :: rest
  members : ∀ {ts : List JsonToken}, ts.length ≤ n →
    ∀ {assembly : JsonAssembly} {frame : ObjectFrame}
    {stack : List ContainerFrame}, assembly.stack = .object frame :: stack → BetweenMembers frame →
    Closes assembly ts →
    ∃ (members : List (JsString × JsonText)) (rest : List JsonToken),
      ts = tokensOfMembers members ++ .endObject :: rest

theorem not_closes_ready (hready : assembly.ready = some readied) : ¬Closes assembly [] := by
  rintro ⟨last, hlast, hclosed⟩
  obtain rfl := Option.some.inj hlast
  rw [JsonAssembly.ready, hclosed.1] at hready
  simp [hclosed.2] at hready

theorem reads_text {n : Nat} (h : Reads n) (hlength : ts.length ≤ n + 1)
    (hready : assembly.ready = some readied) (hcloses : Closes assembly ts)
    (hhead : ts.head? ≠ some .endArray) :
    ∃ (text : JsonText) (rest : List JsonToken), ts = text.tokens ++ rest := by
  cases ts with
  | nil => exact absurd hcloses (not_closes_ready hready)
  | cons token ts =>
    have htoken : token ≠ .endArray := fun heq => hhead (congrArg some heq)
    have hshorter : ts.length ≤ n := Nat.le_of_succ_le_succ hlength
    obtain ⟨next, hnext, hcloses⟩ := hcloses.of_cons
    rw [consume_of_ready hready htoken] at hnext
    cases token with
    | nullValue => exact ⟨.null, ts, rfl⟩
    | trueValue => exact ⟨.bool true, ts, rfl⟩
    | falseValue => exact ⟨.bool false, ts, rfl⟩
    | numberValue literal => exact ⟨.number literal, ts, rfl⟩
    | stringValue value => exact ⟨.string value, ts, rfl⟩
    | endArray => exact absurd rfl htoken
    | endObject => exact absurd hnext nofun
    | keyValue key => exact absurd hnext nofun
    | startArray =>
      obtain ⟨attached, -, hnext⟩ := Option.bind_eq_some_iff.mp hnext
      obtain rfl := Option.some.inj hnext
      obtain ⟨items, rest, rfl⟩ := h.items hshorter rfl (.inl rfl) hcloses
      exact ⟨.array items, rest, by simp [tokens]⟩
    | startObject =>
      obtain ⟨attached, -, hnext⟩ := Option.bind_eq_some_iff.mp hnext
      obtain rfl := Option.some.inj hnext
      obtain ⟨members, rest, rfl⟩ := h.members hshorter rfl (.inl rfl) hcloses
      exact ⟨.object members, rest, by simp [tokens]⟩

theorem tokens_ne_nil (text : JsonText) : text.tokens ≠ [] := by
  cases text <;> simp [tokens]

theorem reads_items {n : Nat} (h : Reads n) (hlength : ts.length ≤ n + 1) {frame : ArrayFrame}
    (hstack : assembly.stack = .array frame :: stack) (hframe : BetweenItems frame)
    (hcloses : Closes assembly ts) :
    ∃ (items : List JsonText) (rest : List JsonToken),
      ts = tokensOfItems items ++ .endArray :: rest := by
  by_cases hhead : ts.head? = some .endArray
  · cases ts with
    | nil => exact absurd hhead nofun
    | cons token ts =>
      obtain rfl := Option.some.inj hhead
      exact ⟨[], ts, rfl⟩
  · obtain ⟨readied, hready, hattach⟩ : ∃ readied, assembly.ready = some readied ∧
        ∀ value, (readied.attachValue value).map JsonAssembly.settle =
          some { assembly with stack := .array ⟨frame.value ++ [value], .commaOrEnd⟩ ::
            stack } := by
      obtain ⟨_, root, rootComplete⟩ := assembly
      obtain ⟨values, state⟩ := frame
      subst hstack
      rcases hframe with rfl | rfl
      · exact ⟨_, rfl, fun _ => rfl⟩
      · exact ⟨_, rfl, fun _ => rfl⟩
    obtain ⟨item, ts', rfl⟩ := reads_text h hlength hready hcloses hhead
    have hfed := (feed_tokens item hready).trans (hattach item.parse)
    have hshorter : ts'.length ≤ n := by
      have hpositive := List.length_pos_iff.mpr (tokens_ne_nil item)
      rw [List.length_append] at hlength
      omega
    obtain ⟨items, rest, rfl⟩ := h.items hshorter rfl (.inr rfl) (hcloses.of_append hfed)
    exact ⟨item :: items, rest, by simp [tokensOfItems]⟩

theorem reads_members {n : Nat} (h : Reads n) (hlength : ts.length ≤ n + 1) {frame : ObjectFrame}
    (hstack : assembly.stack = .object frame :: stack) (hframe : BetweenMembers frame)
    (hcloses : Closes assembly ts) :
    ∃ (members : List (JsString × JsonText)) (rest : List JsonToken),
      ts = tokensOfMembers members ++ .endObject :: rest := by
  cases ts with
  | nil => exact absurd hcloses (not_closes_nil (by simp [hstack]))
  | cons token ts =>
    have hshorter : ts.length ≤ n := Nat.le_of_succ_le_succ hlength
    obtain ⟨next, hnext, hcloses⟩ := hcloses.of_cons
    obtain ⟨_, root, rootComplete⟩ := assembly
    obtain ⟨values, state, oldKey⟩ := frame
    subst hstack
    by_cases hend : token = .endObject
    · subst hend
      exact ⟨[], ts, rfl⟩
    · obtain ⟨key, rfl, rfl⟩ : ∃ key, token = .keyValue key ∧
          next = ⟨.object ⟨values, .colon, some key⟩ :: stack, root, rootComplete⟩ := by
        rcases hframe with rfl | rfl <;> cases token <;>
          first
          | exact absurd rfl hend
          | exact ⟨_, rfl, (Option.some.inj hnext).symm⟩
          | exact absurd hnext nofun
      have hhead : ts.head? ≠ some .endArray := by
        intro hhead
        cases ts with
        | nil => exact absurd hhead nofun
        | cons token ts =>
          obtain rfl := Option.some.inj hhead
          obtain ⟨last, hlast, -⟩ := hcloses.of_cons
          exact absurd hlast nofun
      have hready : JsonAssembly.ready ⟨.object ⟨values, .colon, some key⟩ :: stack, root,
          rootComplete⟩ = some ⟨.object ⟨values, .value, some key⟩ :: stack, root,
            rootComplete⟩ := rfl
      obtain ⟨text, ts', rfl⟩ := h.text hshorter hready hcloses hhead
      have hfed := feed_tokens text hready
      have hshorter' : ts'.length ≤ n := by
        rw [List.length_append] at hshorter
        omega
      obtain ⟨members, rest, rfl⟩ := h.members hshorter' rfl (.inr rfl) (hcloses.of_append hfed)
      exact ⟨(key, text) :: members, rest, by simp [tokensOfMembers]⟩

theorem reads (n : Nat) : Reads n := by
  induction n with
  | zero =>
    constructor
    · intro ts hlength assembly readied hready hcloses
      obtain rfl := List.length_eq_zero_iff.mp (Nat.le_zero.mp hlength)
      exact absurd hcloses (not_closes_ready hready)
    · intro ts hlength assembly frame stack hstack _ hcloses
      obtain rfl := List.length_eq_zero_iff.mp (Nat.le_zero.mp hlength)
      exact absurd hcloses (not_closes_nil (by simp [hstack]))
    · intro ts hlength assembly frame stack hstack _ hcloses
      obtain rfl := List.length_eq_zero_iff.mp (Nat.le_zero.mp hlength)
      exact absurd hcloses (not_closes_nil (by simp [hstack]))
  | succ n ih =>
    exact ⟨fun hlength _ _ hready => reads_text ih hlength hready,
      fun hlength _ _ _ hstack => reads_items ih hlength hstack,
      fun hlength _ _ _ hstack => reads_members ih hlength hstack⟩

theorem tokens_closed (text : JsonText) :
    text.tokens.foldlM JsonAssembly.consume {} = some ⟨[], some text.parse, true⟩ := by
  have hready : JsonAssembly.ready {} = some {} := rfl
  exact (feed_tokens text hready).trans rfl

/-- **Tokens that make a complete root** are those of a text. -/
theorem exists_text (h : Closes {} ts) : ∃ text : JsonText, ts = text.tokens := by
  have hready : JsonAssembly.ready {} = some {} := rfl
  have hhead : ts.head? ≠ some .endArray := by
    intro hhead
    cases ts with
    | nil => exact absurd hhead nofun
    | cons token ts =>
      obtain rfl := Option.some.inj hhead
      obtain ⟨next, hnext, -⟩ := h.of_cons
      exact absurd hnext nofun
  obtain ⟨text, rest, rfl⟩ := (reads ts.length).text (Nat.le_refl _) hready h hhead
  refine ⟨text, ?_⟩
  cases rest with
  | nil => exact List.append_nil _
  | cons token rest =>
    -- nothing may follow a complete root
    obtain ⟨next, hnext, -⟩ := (h.of_append (tokens_closed text)).of_cons
    exact absurd hnext nofun

/-! ### Tokens of one text -/

theorem exists_head_tokens (text : JsonText) :
    ∃ first rest, text.tokens = first :: rest ∧ endsSomething first = false := by
  cases text with
  | bool value => cases value <;> exact ⟨_, _, rfl, rfl⟩
  | _ => exact ⟨_, _, rfl, rfl⟩

/-- The tokens of a text show where they end. -/
def Splits (text : JsonText) : Prop :=
  ∀ (other : JsonText) (rest more : List JsonToken),
    text.tokens ++ rest = other.tokens ++ more → text = other ∧ rest = more

theorem splits_items (h : ∀ item ∈ items, Splits item) (others : List JsonText)
    (rest more : List JsonToken)
    (heq : tokensOfItems items ++ .endArray :: rest = tokensOfItems others ++ .endArray :: more) :
    items = others ∧ rest = more := by
  induction items generalizing others with
  | nil =>
    cases others with
    | nil => exact ⟨rfl, (List.cons.inj heq).2⟩
    | cons other others =>
      obtain ⟨first, tail, hfirst, hends⟩ := exists_head_tokens other
      rw [tokensOfItems, tokensOfItems, hfirst] at heq
      obtain rfl := (List.cons.inj heq).1
      exact absurd hends (by decide)
  | cons item items ih =>
    cases others with
    | nil =>
      obtain ⟨first, tail, hfirst, hends⟩ := exists_head_tokens item
      rw [tokensOfItems, tokensOfItems, hfirst] at heq
      obtain rfl := (List.cons.inj heq).1
      exact absurd hends (by decide)
    | cons other others =>
      rw [tokensOfItems, tokensOfItems, List.append_assoc, List.append_assoc] at heq
      obtain ⟨rfl, hrest⟩ := h item List.mem_cons_self other _ _ heq
      obtain ⟨rfl, rfl⟩ := ih (fun a ha => h a (List.mem_cons_of_mem _ ha)) others hrest
      exact ⟨rfl, rfl⟩

theorem splits_members {members : List (JsString × JsonText)}
    (h : ∀ member ∈ members, Splits member.2) (others : List (JsString × JsonText))
    (rest more : List JsonToken)
    (heq : tokensOfMembers members ++ .endObject :: rest =
      tokensOfMembers others ++ .endObject :: more) : members = others ∧ rest = more := by
  induction members generalizing others with
  | nil =>
    cases others with
    | nil => exact ⟨rfl, (List.cons.inj heq).2⟩
    | cons other others => exact absurd (List.cons.inj heq).1 nofun
  | cons member members ih =>
    obtain ⟨key, text⟩ := member
    cases others with
    | nil => exact absurd (List.cons.inj heq).1 nofun
    | cons other others =>
      obtain ⟨otherKey, otherText⟩ := other
      simp only [tokensOfMembers, List.cons_append, List.append_assoc] at heq
      obtain ⟨hkey, htail⟩ := List.cons.inj heq
      obtain rfl := JsonToken.keyValue.inj hkey
      obtain ⟨rfl, hrest⟩ := h (key, text) List.mem_cons_self otherText _ _ htail
      obtain ⟨rfl, rfl⟩ := ih (fun a ha => h a (List.mem_cons_of_mem _ ha)) others hrest
      exact ⟨rfl, rfl⟩

/-- **The tokens of a text** are those of no other. -/
theorem tokens_append_inj (text : JsonText) : Splits text := by
  -- the first token tells the kind of the other text
  induction text using JsonText.induction with
  | null =>
    intro other rest more heq
    cases other with
    | null => exact ⟨rfl, (List.cons.inj heq).2⟩
    | bool value => cases value <;> exact absurd (List.cons.inj heq).1 nofun
    | _ => exact absurd (List.cons.inj heq).1 nofun
  | bool value =>
    intro other rest more heq
    cases other with
    | bool value' =>
      cases value <;> cases value' <;>
        first
        | exact ⟨rfl, (List.cons.inj heq).2⟩
        | exact absurd (List.cons.inj heq).1 nofun
    | _ => cases value <;> exact absurd (List.cons.inj heq).1 nofun
  | number literal =>
    intro other rest more heq
    cases other with
    | number literal' =>
      obtain ⟨hliteral, hrest⟩ := List.cons.inj heq
      exact ⟨congrArg JsonText.number (JsonToken.numberValue.inj hliteral), hrest⟩
    | bool value => cases value <;> exact absurd (List.cons.inj heq).1 nofun
    | _ => exact absurd (List.cons.inj heq).1 nofun
  | string value =>
    intro other rest more heq
    cases other with
    | string value' =>
      obtain ⟨hvalue, hrest⟩ := List.cons.inj heq
      exact ⟨congrArg string (JsonToken.stringValue.inj hvalue), hrest⟩
    | bool value => cases value <;> exact absurd (List.cons.inj heq).1 nofun
    | _ => exact absurd (List.cons.inj heq).1 nofun
  | array items ih =>
    intro other rest more heq
    cases other with
    | array others =>
      obtain ⟨-, heq⟩ := List.cons.inj heq
      change (tokensOfItems items ++ _) ++ _ = (tokensOfItems others ++ _) ++ _ at heq
      rw [List.append_assoc, List.append_assoc] at heq
      obtain ⟨rfl, rfl⟩ := splits_items ih others rest more heq
      exact ⟨rfl, rfl⟩
    | bool value => cases value <;> exact absurd (List.cons.inj heq).1 nofun
    | _ => exact absurd (List.cons.inj heq).1 nofun
  | object members ih =>
    intro other rest more heq
    cases other with
    | object others =>
      obtain ⟨-, heq⟩ := List.cons.inj heq
      change (tokensOfMembers members ++ _) ++ _ = (tokensOfMembers others ++ _) ++ _ at heq
      rw [List.append_assoc, List.append_assoc] at heq
      obtain ⟨rfl, rfl⟩ := splits_members ih others rest more heq
      exact ⟨rfl, rfl⟩
    | bool value => cases value <;> exact absurd (List.cons.inj heq).1 nofun
    | _ => exact absurd (List.cons.inj heq).1 nofun

/-! ### The parser -/

variable {tokenizer : JsonTokenizer}

/-- **The parser** gives the value that the tokens of all pieces make. -/
theorem parse_eq (pieces : List (List UInt8)) (parser : StreamingJsonValueParser tokenizer) :
    (parser.parse pieces).map (·.value) = (do
      let ts ← tokenizer.emitted parser.decoder parser.tokens pieces
      let assembly ← ts.foldlM JsonAssembly.consume parser.assembly
      if assembly.stack ≠ [] ∨ (assembly.root.isSome ∧ ¬assembly.rootComplete) then none
      else pure (if assembly.rootComplete then assembly.root else none)) := by
  induction pieces generalizing parser with
  | nil =>
    rw [StreamingJsonValueParser.parse, StreamingJsonValueParser.finish_eq, JsonTokenizer.emitted]
    cases tokenizer.writeText parser.tokens parser.decoder.flush with
    | none => rfl
    | some written =>
      simp only [Option.bind_eq_bind, Option.bind_some]
      cases tokenizer.finish written.1 with
      | none => rfl
      | some last =>
        simp only [Option.bind_some, Option.pure_def]
        cases (written.2 ++ last).foldlM JsonAssembly.consume parser.assembly with
        | none => rfl
        | some assembly =>
          simp only [Option.bind_some]
          split_ifs <;> rfl
  | cons bytes pieces ih =>
    rw [StreamingJsonValueParser.parse, StreamingJsonValueParser.write_eq, JsonTokenizer.emitted]
    cases tokenizer.writeText parser.tokens (parser.decoder.decode bytes).2 with
    | none => rfl
    | some written =>
      simp only [Option.bind_eq_bind, Option.bind_some, Option.pure_def]
      cases hfirst : written.2.foldlM JsonAssembly.consume parser.assembly with
      | none =>
        cases tokenizer.emitted (parser.decoder.decode bytes).1 written.1 pieces with
        | none => rfl
        | some more => simp [List.foldlM_append, hfirst]
      | some assembly =>
        simp only [Option.bind_some, ih]
        cases tokenizer.emitted (parser.decoder.decode bytes).1 written.1 pieces with
        | none => rfl
        | some more => simp [List.foldlM_append, hfirst]

/-- **The assembly is exact.**  However the bytes come and the tokenizer cuts them into tokens, the
tokens of a text make the value of `JSON.parse`, and a parser that finishes with a value was given
the tokens of exactly one text. -/
theorem streamingJson_exact (tokenizer : JsonTokenizer) (pieces : List (List UInt8))
    (ts : List JsonToken) (hemitted : tokenizer.emitted {} tokenizer.start pieces = some ts) :
    (∀ text : JsonText, ts = text.tokens →
      ((({} : StreamingJsonValueParser tokenizer).parse pieces).map (·.value)) =
        some (some text.parse)) ∧
    (∀ value, ((({} : StreamingJsonValueParser tokenizer).parse pieces).map (·.value)) =
      some (some value) → ∃! text : JsonText, ts = text.tokens) := by
  have hparse := parse_eq pieces ({} : StreamingJsonValueParser tokenizer)
  rw [hemitted] at hparse
  simp only [Option.bind_eq_bind, Option.bind_some] at hparse
  constructor
  · rintro text rfl
    rw [hparse, tokens_closed]
    rfl
  · intro value hvalue
    rw [hparse] at hvalue
    obtain ⟨last, hlast, hfinish⟩ := Option.bind_eq_some_iff.mp hvalue
    split_ifs at hfinish with hopen hcomplete
    swap
    · exact absurd (Option.some.inj hfinish) nofun
    push Not at hopen
    have hcloses : Closes {} ts := ⟨last, hlast, hopen.1, hcomplete⟩
    obtain ⟨text, rfl⟩ := exists_text hcloses
    refine ⟨text, rfl, ?_⟩
    intro other hother
    have hsame : text.tokens ++ [] = other.tokens ++ [] := by rw [hother]
    exact (tokens_append_inj text other [] [] hsame).1.symm

/-- A tokenizer that is only asked for `{"a":1,"a":2}`. -/
def sampleTokenizer : JsonTokenizer where
  State := Unit
  start := ()
  write _ text :=
    if text = "\x7b\"a\":1,\"a\":2\x7d".toList then
      some ((), [.startObject, .keyValue [97], .numberValue [49], .keyValue [97],
        .numberValue [50], .endObject])
    else none
  finish _ := some []

def sampleText : JsonText := .object [([97], .number [49]), ([97], .number [50])]

/-- The bytes of `{"a":1,"a":2}` in two pieces, the second one empty. -/
def samplePieces : List (List UInt8) :=
  [[123, 34, 97, 34, 58, 49, 44, 34, 97, 34, 58, 50, 125], []]

theorem sampleTokenizer_emitted :
    sampleTokenizer.emitted {} sampleTokenizer.start samplePieces = some sampleText.tokens := by
  have hdecoded : Utf8.Decoder.decode {} [123, 34, 97, 34, 58, 49, 44, 34, 97, 34, 58, 50, 125] =
      ({}, "\x7b\"a\":1,\"a\":2\x7d".toList) := by
    decide
  have hempty : Utf8.Decoder.decode {} [] = ({}, []) := rfl
  have hflush : Utf8.Decoder.flush {} = [] := rfl
  simp only [samplePieces, JsonTokenizer.emitted, JsonTokenizer.writeText, hdecoded, hempty, hflush]
  rfl

theorem sampleTokenizer_parse :
    ((({} : StreamingJsonValueParser sampleTokenizer).parse samplePieces).map (·.value)) =
      some (some sampleText.parse) ∧ sampleText.parse = .object [([97], .number [50])] :=
  ⟨(streamingJson_exact sampleTokenizer samplePieces _ sampleTokenizer_emitted).1 sampleText rfl,
    rfl⟩

end Frely.Providers
