import Taroai.Governance.ToolGateway
import Taroai.Lib.JsonStrings
import Taroai.Memory.ShortTerm

/-! Keyword rules where a value is guarded as the text `json.dumps` makes of it: the tool gateway's
input, the values of the short-term memory, the artifacts of a run. A term is found where it is
left of the escapes. -/

namespace Taroai.Governance

open Json Memory.ShortTerm

section Guards

structure Artifact where
  name : String
  artifactType : String
  uri : String

variable (texts : PythonTexts)

def writtenSorted (value : Json) : String :=
  String.ofList (dumps { sortKeys := true, float := texts.float } value)

def memoryWriteValue (request : ShortTermMemoryWrite Items) : Json :=
  .dict [("key", .text (String.ofList request.key)), ("value", .dict request.value)]

/-- The request of `_apply_memory_write_guardrails`. -/
def memoryWriteRequest (request : ShortTermMemoryWrite Items) : GuardrailEvaluationRequest where
  tenantId := String.ofList request.tenantId
  workspaceId := some (String.ofList request.workspaceId)
  stage := .memoryWrite
  content := writtenSorted texts (memoryWriteValue request)
  attributes := [("memory_kind", .text "short_term"), ("run_id", .text (String.ofList request.runId)),
    ("key_length", .int request.key.length), ("ttl_seconds", .int request.ttlSeconds),
    ("value_keys", .list (((request.value.map Prod.fst).insertionSort fun a b => a ≤ b).map .text))]

def artifactValue (artifact : Artifact) (content : Option String) : Json :=
  .dict [("name", .text artifact.name), ("artifact_type", .text artifact.artifactType),
    ("uri", .text artifact.uri), ("content", .text (content.getD ""))]

/-- The request of `_apply_artifact_guardrails`. -/
def artifactRequest (tenantId workspaceId : String) (artifact : Artifact) (content : Option String) :
    GuardrailEvaluationRequest where
  tenantId := tenantId
  workspaceId := some workspaceId
  stage := .artifact
  content := writtenSorted texts (artifactValue artifact content)
  attributes := [("artifact_type", .text artifact.artifactType),
    ("name_length", .int artifact.name.length),
    ("uri_scheme", .text (String.ofList (artifact.uri.toList.takeWhile fun c => c ≠ ':'))),
    ("content_length", .int (content.getD "").length)]

inductive Guarded (Lease : Type) where
  | toolInput (request : ToolGatewayRequest Lease)
  | memoryWrite (request : ShortTermMemoryWrite Items)
  | artifact (tenantId workspaceId : String) (published : Artifact) (content : Option String)

variable {Lease : Type}

def Guarded.request : Guarded Lease → GuardrailEvaluationRequest
  | .toolInput request => ToolGateway.evaluationRequest texts request
  | .memoryWrite request => memoryWriteRequest texts request
  | .artifact tenantId workspaceId published content =>
    artifactRequest texts tenantId workspaceId published content

def Guarded.value : Guarded Lease → Json
  | .toolInput request => .dict request.toolInput
  | .memoryWrite request => memoryWriteValue request
  | .artifact _ _ published content => artifactValue published content

def Guarded.strings : Guarded Lease → List String
  | .toolInput request => stringsItems request.toolInput
  | .memoryWrite request => String.ofList request.key :: stringsItems request.value
  | .artifact _ _ published content =>
    [published.name, published.artifactType, published.uri, content.getD ""]

theorem Guarded.content_eq (guarded : Guarded Lease) :
    (guarded.request texts).content = writtenSorted texts guarded.value := by
  cases guarded <;> rfl

theorem Guarded.strings_subset (guarded : Guarded Lease) :
    guarded.strings ⊆ Json.strings guarded.value := by
  intro s member
  cases guarded with
  | toolInput request =>
    unfold Guarded.value Json.strings
    exact member
  | memoryWrite request =>
    rcases List.mem_cons.mp member with rfl | member
    · simp [Guarded.value, memoryWriteValue, Json.strings, stringsItems]
    · simp [Guarded.value, memoryWriteValue, Json.strings, stringsItems, member]
  | artifact tenantId workspaceId published content =>
    simp only [Guarded.strings, List.mem_cons, List.not_mem_nil, or_false] at member
    rcases member with rfl | rfl | rfl | rfl <;>
      simp [Guarded.value, artifactValue, Json.strings, stringsItems]

end Guards

section Matching

/-- `str.lower` on printable ASCII. -/
def LowersAscii (rules : TextRules) : Prop :=
  ∀ text, Printable text → rules.lower (String.ofList text) = String.ofList (text.map Char.toLower)

variable {rules : TextRules} {condition : GuardrailCondition}

def GuardrailCondition.compared (rules : TextRules) (condition : GuardrailCondition)
    (term : String) : String :=
  if condition.caseSensitive then term else rules.lower term

theorem containsAnyText_iff {content : String} : condition.containsAnyText rules content = true ↔
    ∃ term ∈ condition.textContains,
      (condition.compared rules term).toList <:+: (condition.compared rules content).toList := by
  unfold GuardrailCondition.containsAnyText GuardrailCondition.compared
  split <;> simp only [List.any_eq_true, includes_iff]

theorem containsAnyText_mono (lowers : LowersAscii rules) {part whole : List Char}
    (inside : part <:+: whole) (printable : Printable whole)
    (found : condition.containsAnyText rules (String.ofList part) = true) :
    condition.containsAnyText rules (String.ofList whole) = true := by
  obtain ⟨term, listed, occurs⟩ := containsAnyText_iff.mp found
  refine containsAnyText_iff.mpr ⟨term, listed, occurs.trans ?_⟩
  unfold GuardrailCondition.compared
  split
  · rw [String.toList_ofList, String.toList_ofList]
    exact inside
  · rw [lowers _ fun c member => printable c (inside.subset member), lowers _ printable,
      String.toList_ofList, String.toList_ofList]
    exact inside.map _

/-- A term with a character that no text of `json.dumps` has. -/
def Unwritten (rules : TextRules) (condition : GuardrailCondition) (term : String) : Prop :=
  ¬Printable (condition.compared rules term).toList

theorem toLower_printable {c : Char} (printable : 32 ≤ c.toNat ∧ c.toNat ≤ 126) :
    32 ≤ c.toLower.toNat ∧ c.toLower.toNat ≤ 126 := by
  have checked : ∀ n ≤ 126, 32 ≤ n →
      32 ≤ (Char.ofNat n).toLower.toNat ∧ (Char.ofNat n).toLower.toNat ≤ 126 := by decide
  have bounds := checked c.toNat printable.2 printable.1
  rwa [Char.ofNat_toNat] at bounds

theorem compared_printable (lowers : LowersAscii rules) {content : List Char}
    (printable : Printable content) :
    Printable (condition.compared rules (String.ofList content)).toList := by
  unfold GuardrailCondition.compared
  split
  · rw [String.toList_ofList]
    exact printable
  · rw [lowers _ printable, String.toList_ofList]
    intro c member
    obtain ⟨d, among, rfl⟩ := List.mem_map.mp member
    exact toLower_printable (printable d among)

theorem containsAnyText_unwritten (lowers : LowersAscii rules) {content : List Char}
    (printable : Printable content)
    (unwritten : ∀ term ∈ condition.textContains, Unwritten rules condition term) :
    condition.containsAnyText rules (String.ofList content) = false := by
  rw [← Bool.not_eq_true, containsAnyText_iff]
  rintro ⟨term, listed, occurs⟩
  exact unwritten term listed fun c member =>
    compared_printable lowers printable c (occurs.subset member)

end Matching

section Sight

variable {Lease : Type} (texts : PythonTexts)

def GuardrailRule.Addresses (rule : GuardrailRule) (request : GuardrailEvaluationRequest) : Prop :=
  (rule.tenantId.all fun tenantId => tenantId = request.tenantId) = true ∧
  (rule.workspaceId.all fun workspaceId => some workspaceId = request.workspaceId) = true ∧
  rule.stage = request.stage

def Occurs (rule : GuardrailRule) (guarded : Guarded Lease) : Prop :=
  ∃ s ∈ guarded.strings, rule.condition.containsAnyText texts.toTextRules s = true

/-- A term of the rule occurs in one of the guarded strings once its quotes, backslashes, control
characters and characters beyond ASCII are escaped. -/
def OccursEscaped (rule : GuardrailRule) (guarded : Guarded Lease) : Prop :=
  ∃ s ∈ guarded.strings,
    rule.condition.containsAnyText texts.toTextRules (String.ofList (escaped s.toList)) = true

def Sees (rule : GuardrailRule) (guarded : Guarded Lease) : Prop :=
  Occurs texts rule guarded →
    InMemoryGuardrailService.matchesRule texts.toTextRules (guarded.request texts) rule = true

variable {texts} {rule : GuardrailRule} {guarded : Guarded Lease}

theorem matchesRule_iff (keywords : rule.condition.textContains ≠ [])
    (alone : rule.condition.attributeEquals = [])
    (addressed : rule.Addresses (guarded.request texts)) :
    InMemoryGuardrailService.matchesRule texts.toTextRules (guarded.request texts) rule = true ↔
      rule.condition.containsAnyText texts.toTextRules (guarded.request texts).content = true := by
  obtain ⟨tenant, workspace, stage⟩ := addressed
  have some_terms : rule.condition.textContains.isEmpty = false :=
    Bool.eq_false_iff.mpr fun empty => keywords (List.isEmpty_iff.mp empty)
  simp only [InMemoryGuardrailService.matchesRule, GuardrailCondition.matches?, tenant, workspace,
    stage, alone, some_terms, decide_true, Bool.and_self, Bool.true_and, List.all_nil, Bool.and_true,
    Bool.false_or]

theorem content_printable (floats : ∀ q, Printable (texts.float q).toList) (guarded : Guarded Lease) :
    Printable (dumps { sortKeys := true, float := texts.float } guarded.value) := by
  have comma : Printable ", ".toList := forall_mem_of_all (by decide)
  have colon : Printable ": ".toList := forall_mem_of_all (by decide)
  exact dumps_printable ⟨comma, colon, floats⟩ guarded.value

theorem seen_of_escaped (lowers : LowersAscii texts.toTextRules)
    (floats : ∀ q, Printable (texts.float q).toList)
    (alone : rule.condition.attributeEquals = [])
    (addressed : rule.Addresses (guarded.request texts)) (occurs : OccursEscaped texts rule guarded) :
    InMemoryGuardrailService.matchesRule texts.toTextRules (guarded.request texts) rule = true := by
  obtain ⟨s, member, found⟩ := occurs
  have keywords : rule.condition.textContains ≠ [] := by
    obtain ⟨term, listed, -⟩ := containsAnyText_iff.mp found
    exact List.ne_nil_of_mem listed
  rw [matchesRule_iff keywords alone addressed, guarded.content_eq]
  have inside : escaped s.toList <:+: dumps { sortKeys := true, float := texts.float } guarded.value :=
    (escaped_infix_quote s).trans (quote_infix_dumps _ (guarded.strings_subset member))
  exact containsAnyText_mono lowers inside (content_printable floats guarded) found

theorem occursEscaped_of_plain (sensitive : rule.condition.caseSensitive = true)
    (plain : ∀ term ∈ rule.condition.textContains, ∀ c ∈ term.toList, Plain c)
    (occurs : Occurs texts rule guarded) : OccursEscaped texts rule guarded := by
  obtain ⟨s, member, found⟩ := occurs
  obtain ⟨term, listed, inside⟩ := containsAnyText_iff.mp found
  refine ⟨s, member, containsAnyText_iff.mpr ⟨term, listed, ?_⟩⟩
  simp only [GuardrailCondition.compared, sensitive, if_true, String.toList_ofList] at inside ⊢
  have escapes := inside.flatMap escapeChar
  rwa [show term.toList.flatMap escapeChar = term.toList from escaped_plain (plain term listed)]
    at escapes

/-- A keyword rule sees what it guards where none of its terms occurs in a guarded string or one
occurs in such a string with its escapes. Plain case-sensitive terms are always seen; where each
term has a character that `json.dumps` never writes, none is. -/
theorem sees_of_occursEscaped (lowers : LowersAscii texts.toTextRules)
    (floats : ∀ q, Printable (texts.float q).toList)
    (keywords : rule.condition.textContains ≠ []) (alone : rule.condition.attributeEquals = [])
    (addressed : rule.Addresses (guarded.request texts)) :
    (¬Occurs texts rule guarded ∨ OccursEscaped texts rule guarded → Sees texts rule guarded) ∧
    (rule.condition.caseSensitive = true →
      (∀ term ∈ rule.condition.textContains, ∀ c ∈ term.toList, Plain c) →
        Sees texts rule guarded) ∧
    ((∀ term ∈ rule.condition.textContains, Unwritten texts.toTextRules rule.condition term) →
      (Sees texts rule guarded ↔ ¬Occurs texts rule guarded)) := by
  refine ⟨?_, ?_, ?_⟩
  · rintro (absent | escapes) occurs
    · exact absurd occurs absent
    · exact seen_of_escaped lowers floats alone addressed escapes
  · exact fun sensitive plain occurs =>
      seen_of_escaped lowers floats alone addressed (occursEscaped_of_plain sensitive plain occurs)
  · intro unwritten
    have unmatched : ¬InMemoryGuardrailService.matchesRule texts.toTextRules (guarded.request texts)
        rule = true := by
      rw [matchesRule_iff keywords alone addressed, guarded.content_eq, Bool.not_eq_true]
      exact containsAnyText_unwritten lowers (content_printable floats guarded) unwritten
    exact ⟨fun sees occurs => unmatched (sees occurs), fun absent occurs => absurd occurs absent⟩

end Sight

section Unseen

def keywordTexts : PythonTexts where
  lower s := String.ofList (s.toList.map Char.toLower)
  alike a b := a.toLower = b.toLower
  template replacement := .ok fun _ => replacement.toList
  format _ := ""
  float _ := "0.5"

theorem keywordTexts_lowers : LowersAscii keywordTexts.toTextRules := by
  intro text _
  change String.ofList ((String.ofList text).toList.map Char.toLower) = _
  rw [String.toList_ofList]

theorem keywordTexts_floats (q : Rat) : Printable (keywordTexts.float q).toList :=
  show Printable "0.5".toList from forall_mem_of_all (by decide)

def keywordRule (stage : GuardrailStage) (term : String) : GuardrailRule where
  id := "keyword"
  stage := stage
  condition := { textContains := [term] }
  action := .block
  message := "Refused."

def noted (note : String) : Guarded Unit := .toolInput
  { tenantId := "acme"
    workspaceId := "main"
    userId := "ada"
    runId := "run"
    stepId := "step"
    toolName := "note"
    toolInput := [("note", .text note)] }

def remembered (note : String) : Guarded Unit := .memoryWrite
  { tenantId := "acme".toList
    workspaceId := "main".toList
    runId := "run".toList
    key := "note".toList
    value := [("note", .text note)] }

def published (note : String) : Guarded Unit :=
  .artifact "acme" "main" ⟨"note.txt", "text", "file:note.txt"⟩ (some note)

theorem noted_occurs {stage : GuardrailStage} {note : String} {guarded : Guarded Unit}
    (member : note ∈ guarded.strings) : Occurs keywordTexts (keywordRule stage note) guarded :=
  ⟨note, member, containsAnyText_iff.mpr ⟨note, List.mem_cons_self, List.infix_refl _⟩⟩

theorem sees_plan : Sees keywordTexts (keywordRule .toolRequest "plan") (noted "the plan") := by
  have escapes : OccursEscaped keywordTexts (keywordRule .toolRequest "plan") (noted "the plan") :=
    ⟨"the plan", by simp [Guarded.strings, noted, stringsItems, Json.strings], by decide⟩
  exact (sees_of_occursEscaped keywordTexts_lowers keywordTexts_floats (List.cons_ne_nil _ _) rfl
    ⟨rfl, rfl, rfl⟩).1 (Or.inr escapes)

/-- A letter beyond ASCII is seen by none of the guards, a term with a quote not by the gateway. -/
theorem escaped_terms_unseen :
    ¬Sees keywordTexts (keywordRule .toolRequest "é") (noted "é") ∧
    ¬Sees keywordTexts (keywordRule .memoryWrite "é") (remembered "é") ∧
    ¬Sees keywordTexts (keywordRule .artifact "é") (published "é") ∧
    ¬Sees keywordTexts (keywordRule .toolRequest "a\"b") (noted "a\"b") := by
  have unseen : ∀ (stage : GuardrailStage) (guarded : Guarded Unit), "é" ∈ guarded.strings →
      (keywordRule stage "é").Addresses (guarded.request keywordTexts) →
      ¬Sees keywordTexts (keywordRule stage "é") guarded := by
    intro stage guarded member addressed sees
    have seen := sees (noted_occurs member)
    rw [matchesRule_iff (List.cons_ne_nil _ _) rfl addressed, guarded.content_eq, writtenSorted,
      containsAnyText_unwritten keywordTexts_lowers (content_printable keywordTexts_floats guarded)]
      at seen
    · cases seen
    · intro term listed printable
      rw [List.mem_singleton.mp listed] at printable
      have among : 'é' ∈ (GuardrailCondition.compared keywordTexts.toTextRules
          { textContains := ["é"] } "é").toList := by decide
      exact absurd (printable 'é' among) (by decide)
  refine ⟨unseen _ _ ?_ ⟨rfl, rfl, rfl⟩, unseen _ _ ?_ ⟨rfl, rfl, rfl⟩,
    unseen _ _ ?_ ⟨rfl, rfl, rfl⟩, ?_⟩
  · simp [Guarded.strings, noted, stringsItems, Json.strings]
  · simp [Guarded.strings, remembered, stringsItems, Json.strings]
  · simp [Guarded.strings, published]
  · intro sees
    have seen := sees (noted_occurs (by simp [Guarded.strings, noted, stringsItems, Json.strings]))
    exact absurd seen (by decide)

end Unseen

end Taroai.Governance
