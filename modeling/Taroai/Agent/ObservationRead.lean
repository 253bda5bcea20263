import Taroai.Lib.JsonUnicode
import Taroai.Store.AgentStore

/-! The tool `observation.read`, which pages through the stored output of an observation, and
`_model_observations`, which presents the last observations to the model. How a float is written
and how a value that is not a text reads as one are parameters. -/

namespace Taroai.Agent.ObservationRead

open Store Json

/-- `OBSERVATION_READ_PAGE_CHARACTERS` -/
def pageCharacters : Nat := 10000

def jsonOf : Value Json → Json
  | .null => .null
  | .int n => .int n
  | .text s => .text s
  | .other json _ => json

def itemsOf (dict : Dict Json) : Items := dict.map fun item => (item.1, jsonOf item.2)

structure ReadRequest where
  tenantId : String
  runId : String
  actionId : String
  offset : Option Int := none

inductive ReadError where
  | store (error : StoreError)
  | toolExecution (message : String)

structure Page where
  actionId : String
  content : List Char
  totalCharacters : Nat
  offset : Nat
  nextOffset : Option Nat

def Page.output (page : Page) : Dict Json := [
  ("action_id", .text page.actionId),
  ("content", .text (String.ofList page.content)),
  ("total_characters", .int page.totalCharacters),
  ("offset", .int page.offset),
  ("next_offset", page.nextOffset.elim .null fun n => .int n)]

def pageAt (actionId : String) (content : List Char) (offset : Nat) : Page where
  actionId
  content := (content.drop offset).take pageCharacters
  totalCharacters := content.length
  offset
  nextOffset :=
    if offset + pageCharacters < content.length then some (offset + pageCharacters) else none

section
variable (float : Rat → String) (store : AgentStore Json) (request : ReadRequest)

/-- `json.dumps(action.observation.output, ensure_ascii=False, default=str)` -/
def serialised (observation : Store.AgentObservation Json) : List Char :=
  dumpsUnicode float (.dict (itemsOf observation.output))

def readObservation : Except ReadError Page :=
  let actionId := String.ofList (strippedChars request.actionId)
  let offset := (max 0 (request.offset.getD 0)).toNat
  match (AgentStore.getAgentAction request.tenantId actionId store).1 with
  | .error e => .error (.store e)
  | .ok action =>
    if action.runId ≠ request.runId then
      .error (.toolExecution "observation belongs to a different run")
    else
      match action.observation with
      | none => .error (.toolExecution "observation has no recorded output yet")
      | some observation => .ok (pageAt actionId (serialised float observation) offset)

/-- Calls from an offset on, each from the `next_offset` of the one before; `none` when that many
calls do not reach the end. -/
def followPages : Nat → Nat → Except ReadError (Option (List Page))
  | 0, _ => .ok none
  | calls + 1, offset =>
    match readObservation float store { request with offset := some offset } with
    | .error e => .error e
    | .ok page =>
      match page.nextOffset with
      | none => .ok (some [page])
      | some next => (followPages calls next).map (Option.map (page :: ·))

end

/-! `_model_observations` -/

section
variable (float : Rat → String) (str : Json → String)

/-- `str(value or "")` -/
def textOr : Json → String
  | .null | .bool false | .int 0 | .list [] | .dict [] => ""
  | .text s => s
  | .float q => if q = 0 then "" else str (.float q)
  | value => str value

def shortenResult : Json → Json
  | .dict result =>
    let content := (textOr str ((Items.get? result "content").getD .null)).toList
    if 800 < content.length then
      .dict (Items.set result "content" (.text (String.ofList
        (content.take 400 ++ "\n…\n".toList ++ content.drop (content.length - 400)))))
    else .dict result
  | result => result

def shortenResults (output : Items) : Items :=
  match Items.get? output "results" with
  | some (.list results) => Items.set output "results" (.list (results.map (shortenResult str)))
  | _ => output

def compacted (actionId : String) (text : List Char) : Items := [
  ("compacted", .bool true),
  ("original_characters", .int text.length),
  ("preview", .text (String.ofList
    (text.take 6000 ++ "\n…\n".toList ++ text.drop (text.length - 6000)))),
  ("full_output", .text (s!"call observation.read with action_id={actionId} " ++
    "to page through the complete output"))]

def presentOutput (actionId : String) (output : Items) : Items :=
  let output := shortenResults str output
  let text := dumpsUnicode float (.dict output)
  if text.length ≤ 12000 then output else compacted actionId text

inductive Payload where
  | olderIndex (entries : List (String × Bool))
  | recent (observation : Store.AgentObservation Json) (output : Items)

def modelObservations (observations : List (Store.AgentObservation Json)) : List Payload :=
  let older := observations.take (observations.length - 8)
  let payloads := (observations.drop (observations.length - 8)).map fun observation =>
    .recent observation (presentOutput float str observation.actionId (itemsOf observation.output))
  if older = [] then payloads
  else .olderIndex (older.map fun o => (o.actionId, o.success)) :: payloads

end

/-- The page, recorded as an observation and among the last eight, is presented as it is. -/
def PresentedWhole (float : Rat → String) (str : Json → String) (page : Page) : Prop :=
  ∀ recorded : Store.AgentObservation Json, recorded.output = page.output →
    ∀ earlier later, later.length < 8 →
      (modelObservations float str (earlier ++ recorded :: later)).reverse[later.length]? =
        some (.recent recorded (itemsOf page.output))

/-- Reading from the start comes to an end, the contents are the whole text, and each page is
presented as it is. -/
def GivesBack (float : Rat → String) (str : Json → String) (store : AgentStore Json)
    (request : ReadRequest) (whole : List Char) : Prop :=
  ∃ pages, (∃ calls, followPages float store request calls 0 = .ok (some pages)) ∧
    pages.flatMap Page.content = whole ∧ ∀ page ∈ pages, PresentedWhole float str page

def Page.frame (float : Rat → String) (page : Page) : List Char :=
  dumpsUnicode float (.dict (itemsOf { page with content := [] }.output))

/-- The page with its frame, and each quote and backslash in it counted twice, stays below the
threshold. -/
def Page.Fits (float : Rat → String) (page : Page) : Prop :=
  (page.frame float).length + page.content.length + page.content.countP doubled ≤ 12000

def PagesFit (float : Rat → String) (actionId : String) (whole : List Char) : Prop :=
  ∀ k, k = 0 ∨ k * pageCharacters < whole.length →
    (pageAt actionId whole (k * pageCharacters)).Fits float

def pageCount (whole : List Char) : Nat := (whole.length - 1) / pageCharacters + 1

theorem lt_pageCount {whole : List Char} {k : Nat} :
    k < pageCount whole ↔ k = 0 ∨ k * pageCharacters < whole.length := by
  unfold pageCount pageCharacters
  omega

section
variable (actionId : String) (whole : List Char)

def pagesFrom (k count : Nat) : List Page :=
  (List.range' k count).map fun k => pageAt actionId whole (k * pageCharacters)

theorem contents_pagesFrom (count k : Nat) :
    (pagesFrom actionId whole k count).flatMap Page.content =
      (whole.drop (k * pageCharacters)).take (count * pageCharacters) := by
  induction count generalizing k with
  | zero => simp [pagesFrom]
  | succ count ih =>
    have step : pagesFrom actionId whole k (count + 1) =
        pageAt actionId whole (k * pageCharacters) :: pagesFrom actionId whole (k + 1) count := by
      rw [pagesFrom, List.range'_succ, List.map_cons]
      rfl
    have next : (count + 1) * pageCharacters = pageCharacters + count * pageCharacters := by
      rw [Nat.add_mul, Nat.one_mul, Nat.add_comm]
    rw [step, List.flatMap_cons, ih, next, List.take_add, List.drop_drop, Nat.add_mul, Nat.one_mul]
    rfl

theorem contents_pages :
    (pagesFrom actionId whole 0 (pageCount whole)).flatMap Page.content = whole := by
  rw [contents_pagesFrom, Nat.zero_mul, List.drop_zero]
  refine List.take_of_length_le ?_
  unfold pageCount pageCharacters
  omega

theorem pagesFit_iff (float : Rat → String) :
    PagesFit float actionId whole ↔
      ∀ page ∈ pagesFrom actionId whole 0 (pageCount whole), page.Fits float := by
  constructor
  · intro fit page among
    obtain ⟨k, in_range, rfl⟩ := List.mem_map.mp among
    obtain ⟨-, below⟩ := List.mem_range'_1.mp in_range
    exact fit k (lt_pageCount.mp (by omega))
  · intro fit k reached
    have below := lt_pageCount.mpr reached
    exact fit _ (List.mem_map.mpr ⟨k, List.mem_range'_1.mpr ⟨Nat.zero_le k, by omega⟩, rfl⟩)

end

theorem nextOffset_pageAt (actionId : String) (whole : List Char) (k : Nat) :
    (pageAt actionId whole (k * pageCharacters)).nextOffset =
      if k + 1 < pageCount whole then some ((k + 1) * pageCharacters) else none := by
  have more : k * pageCharacters + pageCharacters < whole.length ↔ k + 1 < pageCount whole := by
    unfold pageCount pageCharacters
    omega
  simp only [pageAt, more, Nat.add_mul, Nat.one_mul]

section
variable {float : Rat → String} {store : AgentStore Json} {request : ReadRequest}
  {action : Store.AgentAction Json} {observation : Store.AgentObservation Json}
  (found : (AgentStore.getAgentAction request.tenantId
    (String.ofList (strippedChars request.actionId)) store).1 = .ok action)
  (same_run : action.runId = request.runId) (observed : action.observation = some observation)
include found same_run observed

theorem readObservation_eq (offset : Nat) :
    readObservation float store { request with offset := some (offset : Int) } =
      .ok (pageAt (String.ofList (strippedChars request.actionId)) (serialised float observation)
        offset) := by
  unfold readObservation
  simp only [found, same_run, observed, ne_eq, not_true, if_false, Option.getD_some]
  congr 2

variable (float) in
theorem followPages_eq (calls k : Nat) (reached : k < pageCount (serialised float observation)) :
    followPages float store request calls (k * pageCharacters) =
      .ok (if pageCount (serialised float observation) - k ≤ calls then
        some (pagesFrom (String.ofList (strippedChars request.actionId))
          (serialised float observation) k (pageCount (serialised float observation) - k))
      else none) := by
  induction calls generalizing k with
  | zero =>
    rw [if_neg (by omega)]
    rfl
  | succ calls ih =>
    rw [followPages, readObservation_eq found same_run observed]
    by_cases more : k + 1 < pageCount (serialised float observation)
    · have later := ih (k + 1) more
      have left : pageCount (serialised float observation) - k =
          pageCount (serialised float observation) - (k + 1) + 1 := by omega
      simp only [nextOffset_pageAt, if_pos more, later]
      by_cases enough : pageCount (serialised float observation) - (k + 1) ≤ calls
      · rw [if_pos enough, if_pos (by omega), left, pagesFrom, pagesFrom, List.range'_succ,
          List.map_cons]
        rfl
      · rw [if_neg enough, if_neg (by omega)]
        rfl
    · have one : pageCount (serialised float observation) - k = 1 := by omega
      simp only [nextOffset_pageAt, if_neg more, one]
      rw [if_pos (Nat.le_add_left 1 calls)]
      rfl

end

section
variable {float : Rat → String} {str : Json → String}

theorem length_page_text (page : Page) :
    (dumpsUnicode float (.dict (itemsOf page.output))).length =
      (page.frame float).length + (page.content.flatMap escapeUnicode).length := by
  simp only [Page.frame, Page.output, itemsOf, jsonOf, List.map_cons, List.map_nil, dumpsUnicode,
    dumpItemsUnicode, quoteUnicode, List.intercalate, List.intersperse, List.flatten_cons,
    List.flatten_nil, List.length_cons, List.length_append, String.toList_ofList, List.flatMap_nil,
    List.length_nil]
  omega

theorem shortenResults_page (page : Page) :
    shortenResults str (itemsOf page.output) = itemsOf page.output := by
  have absent : Items.get? (itemsOf page.output) "results" = none := by
    simp [Items.get?, itemsOf, Page.output]
  rw [shortenResults, absent]

theorem presentOutput_page (actionId : String) (page : Page) :
    presentOutput float str actionId (itemsOf page.output) = itemsOf page.output ↔
      (dumpsUnicode float (.dict (itemsOf page.output))).length ≤ 12000 := by
  simp only [presentOutput, shortenResults_page]
  split
  · rename_i short
    exact iff_of_true rfl short
  · rename_i long
    refine iff_of_false (fun same => ?_) long
    have key := congrArg (fun items : Items => items.head?.map Prod.fst) same
    simp [compacted, itemsOf, Page.output] at key

theorem modelObservations_at (earlier later : List (Store.AgentObservation Json))
    (recorded : Store.AgentObservation Json) (recent : later.length < 8) :
    (modelObservations float str (earlier ++ recorded :: later)).reverse[later.length]? =
      some (.recent recorded
        (presentOutput float str recorded.actionId (itemsOf recorded.output))) := by
  have start : (earlier ++ recorded :: later).length - 8 ≤ earlier.length := by
    simp only [List.length_append, List.length_cons]
    omega
  have payloads : ∀ (front : List (Store.AgentObservation Json)) (f : Store.AgentObservation Json → Payload),
      ((front ++ recorded :: later).map f).reverse[later.length]? = some (f recorded) := by
    intro front f
    simp
  rw [modelObservations, List.drop_append_of_le_length start]
  split
  · exact payloads _ _
  · rw [List.reverse_cons, List.getElem?_append_left (by simp)]
    exact payloads _ _

theorem presentedWhole_iff (page : Page) (printed : Printed page.content) :
    PresentedWhole float str page ↔ page.Fits float := by
  rw [Page.Fits, Nat.add_assoc, ← length_escaped printed, ← length_page_text]
  constructor
  · intro whole
    let recorded : Store.AgentObservation Json := {
      actionId := "action", success := true, output := page.output, error := none
      safeError := none, failureClass := none, createdAt := 0, actionId_nonempty := by decide }
    have shown := whole recorded rfl [] [] (by decide)
    rw [modelObservations_at [] [] recorded (by decide)] at shown
    injection shown with shown
    injection shown with _ shown
    exact (@presentOutput_page _ str "action" page).mp shown
  · intro short recorded same earlier later recent
    rw [modelObservations_at earlier later recorded recent, same,
      (presentOutput_page recorded.actionId page).mpr short]

end

section
variable {float : Rat → String} (printed_float : ∀ q, Printed (float q).toList)
  {str : Json → String} {store : AgentStore Json} {request : ReadRequest}
  {action : Store.AgentAction Json} {observation : Store.AgentObservation Json}
  (found : (AgentStore.getAgentAction request.tenantId
    (String.ofList (strippedChars request.actionId)) store).1 = .ok action)
  (same_run : action.runId = request.runId) (observed : action.observation = some observation)
include printed_float

theorem pages_printed (actionId : String) {page : Page}
    (among : page ∈ pagesFrom actionId (serialised float observation) 0
      (pageCount (serialised float observation))) : Printed page.content := by
  intro c in_page
  obtain ⟨k, -, rfl⟩ := List.mem_map.mp among
  exact dumpsUnicode_printed printed_float _ c
    (List.mem_of_mem_drop (List.mem_of_mem_take in_page))

include found same_run observed

theorem fit_of_givesBack (given : GivesBack float str store request (serialised float observation)) :
    PagesFit float (String.ofList (strippedChars request.actionId))
      (serialised float observation) := by
  rw [pagesFit_iff]
  obtain ⟨pages, ⟨calls, ended⟩, -, whole⟩ := given
  have follow := followPages_eq float found same_run observed calls 0 (Nat.succ_pos _)
  rw [Nat.zero_mul] at follow
  have same := ended.symm.trans follow
  injection same with same
  split at same
  · cases same
    intro page among
    exact (presentedWhole_iff page (pages_printed printed_float _ among)).mp (whole page among)
  · cases same

theorem givesBack_of_fit
    (fit : PagesFit float (String.ofList (strippedChars request.actionId))
      (serialised float observation)) :
    GivesBack float str store request (serialised float observation) := by
  rw [pagesFit_iff] at fit
  have follow := followPages_eq float found same_run observed
    (pageCount (serialised float observation)) 0 (Nat.succ_pos _)
  rw [Nat.zero_mul, if_pos (Nat.sub_le _ _)] at follow
  refine ⟨_, ⟨_, follow⟩, contents_pages _ _, fun page among => ?_⟩
  exact (presentedWhole_iff page (pages_printed printed_float _ among)).mpr (fit page among)

end

/-- An observation is given back whole just when its pages fit below the threshold. -/
theorem gives_back_iff (float : Rat → String) (printed_float : ∀ q, Printed (float q).toList)
    (str : Json → String) (store : AgentStore Json) (request : ReadRequest)
    (action : Store.AgentAction Json) (observation : Store.AgentObservation Json)
    (found : (AgentStore.getAgentAction request.tenantId
      (String.ofList (strippedChars request.actionId)) store).1 = .ok action)
    (same_run : action.runId = request.runId) (observed : action.observation = some observation) :
    GivesBack float str store request (serialised float observation) ↔
      PagesFit float (String.ofList (strippedChars request.actionId))
        (serialised float observation) :=
  ⟨fit_of_givesBack printed_float found same_run observed,
    givesBack_of_fit printed_float found same_run observed⟩

def sampleObservation (stdout : String) : Store.AgentObservation Json where
  actionId := "action"
  success := true
  output := [("stdout", .text stdout)]
  error := none
  safeError := none
  failureClass := none
  createdAt := 0
  actionId_nonempty := by decide

def sampleAction (stdout : String) : Store.AgentAction Json where
  id := "action"
  tenantId := "tenant"
  workspaceId := "workspace"
  runId := "run"
  cycleId := "cycle"
  threadId := none
  actionKey := "attempt:0:cycle:1:action"
  decision := .null
  status := .succeeded
  observation := some (sampleObservation stdout)
  actionKey_nonempty := by decide

def sampleStore (stdout : String) : AgentStore Json where
  runs := Table.empty
  cycles := Table.empty
  actions := ⟨[sampleAction stdout], List.nodup_singleton _⟩
  checkpoints := []
  runEvents := []

def sampleRequest : ReadRequest where
  tenantId := "tenant"
  runId := "run"
  actionId := "action"

theorem sample_found (stdout : String) :
    (AgentStore.getAgentAction sampleRequest.tenantId
      (String.ofList (strippedChars sampleRequest.actionId)) (sampleStore stdout)).1 =
      .ok (sampleAction stdout) := rfl

theorem short_output_given_back :
    GivesBack (fun _ => "") (fun _ => "") (sampleStore "ok") sampleRequest
      (serialised (fun _ => "") (sampleObservation "ok")) := by
  refine (gives_back_iff (fun _ => "") (fun _ _ among => nomatch among) (fun _ => "")
    (sampleStore "ok") sampleRequest (sampleAction "ok") (sampleObservation "ok") (sample_found "ok")
    rfl rfl).mpr ?_
  intro k reached
  have short : (serialised (fun _ => "") (sampleObservation "ok")).length = 16 := by decide +kernel
  have first : k = 0 := by
    rw [short] at reached
    unfold pageCharacters at reached
    omega
  subst first
  unfold Page.Fits
  decide +kernel

theorem escaped_quotes (n : Nat) :
    (List.replicate n '"').flatMap escapeUnicode = List.flatten (List.replicate n ['\\', '"']) := by
  rw [List.flatMap, List.map_replicate]
  rfl

theorem serialised_quotes (n : Nat) :
    serialised (fun _ => "") (sampleObservation (String.ofList (List.replicate n '"'))) =
      "\x7b\"stdout\": \"".toList ++
        (List.flatten (List.replicate n ['\\', '"']) ++ "\"\x7d".toList) := by
  simp [serialised, sampleObservation, itemsOf, jsonOf, dumpsUnicode, dumpItemsUnicode, quoteUnicode,
    List.intercalate, escaped_quotes, escapeUnicode]

theorem length_quotes (n : Nat) :
    (List.flatten (List.replicate n ['\\', '"'])).length = n * 2 := by
  simp [List.length_flatten]

theorem doubled_quotes (n : Nat) :
    (List.flatten (List.replicate n ['\\', '"'])).countP doubled = n * 2 := by
  rw [List.countP_eq_length.mpr, length_quotes]
  intro c among
  obtain ⟨pair, repeated, in_pair⟩ := List.mem_flatten.mp among
  rw [List.eq_of_mem_replicate repeated] at in_pair
  exact forall_mem_of_all (p := fun c => doubled c = true) (by decide) c in_pair

/-- Each quote of an output is escaped when it is stored in a page and again when the page is
shown: the first page of 6000 quotes is compacted. -/
theorem quotes_compacted :
    ¬ GivesBack (fun _ => "") (fun _ => "")
      (sampleStore (String.ofList (List.replicate 6000 '"'))) sampleRequest
      (serialised (fun _ => "") (sampleObservation (String.ofList (List.replicate 6000 '"')))) := by
  intro given
  have empty_floats : ∀ q : Rat, Printed ((fun _ => "" : Rat → String) q).toList :=
    fun _ _ among => nomatch among
  have fits := fit_of_givesBack empty_floats (sample_found _) rfl rfl given 0 (.inl rfl)
  have content : (pageAt (String.ofList (strippedChars sampleRequest.actionId))
      (serialised (fun _ => "") (sampleObservation (String.ofList (List.replicate 6000 '"'))))
      (0 * pageCharacters)).content =
        "\x7b\"stdout\": \"".toList ++ List.flatten (List.replicate 4994 ['\\', '"']) := by
    have cut : List.replicate 6000 ['\\', '"'] =
        List.replicate 4994 ['\\', '"'] ++ List.replicate 1006 ['\\', '"'] := by
      rw [← List.replicate_add]
    simp only [serialised_quotes, pageAt, Nat.zero_mul, List.drop_zero, cut, List.flatten_append,
      ← List.append_assoc]
    rw [List.append_assoc (_ ++ _), List.take_left']
    rw [List.length_append, length_quotes]
    rfl
  rw [Page.Fits, content, List.countP_append, doubled_quotes, List.length_append, length_quotes]
    at fits
  have opening : "\x7b\"stdout\": \"".toList.length = 12 := by decide
  omega

end Taroai.Agent.ObservationRead
