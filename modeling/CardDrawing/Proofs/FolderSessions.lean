import CardDrawing.Template.Store
import CardDrawing.Proofs.KeyedEntries
import CardDrawing.Proofs.Outcomes

/-!
# A folder while its files change

Templates are asked for again and again while files are created, changed and deleted. What has been
read once is kept whatever becomes of its file, a failure is not kept, and each name is answered
from its own file alone.
-/

namespace CardDrawing.Proofs
open Keyed TemplateFolder

/-- What happens around a folder: its files change in whatever way, or a template is asked for. -/
inductive FolderEvent where
  | change (files : Files)
  | ask (name : String)

/-- A request for a template, with the files and the folder as they are then. -/
structure FolderRequest where
  name : String
  files : Files
  folder : TemplateFolder

def FolderRequest.supply (r : FolderRequest) : Supply := r.folder.supply r.files r.name

/-- The requests in a course of events. -/
def requests (files : Files) (folder : TemplateFolder) : List FolderEvent → List FolderRequest
  | [] => []
  | .change files' :: rest => requests files' folder rest
  | .ask name :: rest =>
    let r : FolderRequest := { name, files, folder }
    r :: requests files r.supply.folder rest

/-- The template that the first successful request for a name gave. -/
def firstTemplate (name : String) (rs : List FolderRequest) : Option Template :=
  rs.findSome? fun r => if r.name = name then r.supply.answer.toOption else none

/-- The place of the document of a template, as seen from the folder. -/
def documentPath (root : Path) (name : String) : Path := root.join (.ofText (name ++ ".json"))

/-- The name does not stand for a file directly inside a folder. -/
def Stray (name : String) : Prop :=
  name = "" ∨ name = "." ∨ name = ".." ∨ '/' ∈ name.toList ∨ '\\' ∈ name.toList

variable {root : Path} {files files' : Files} {folder : TemplateFolder} {name : String}
  {template : Template} {r : FolderRequest} {rs before after : List FolderRequest}
  {events : List FolderEvent}

/-! ## Names and places -/

lemma isFileName_eq_false : isFileName name = false ↔ Stray name := by
  simp only [isFileName, Stray, Bool.and_eq_false_iff, Bool.not_eq_false', List.contains_iff_mem,
    decide_eq_false_iff_not, not_not, or_assoc]

lemma splitAt_of_notMem {separator : Char} {cs : List Char} (h : separator ∉ cs) :
    Text.splitAt separator cs = [cs] := by
  induction cs with
  | nil => rfl
  | cons c rest ih =>
    rw [List.mem_cons, not_or] at h
    rw [Text.splitAt, if_neg (Ne.symm h.1), ih h.2]

lemma ofText_document (h : isFileName name = true) :
    Path.ofText (name ++ ".json") = { slashes := 0, parts := [name ++ ".json"] } := by
  have hstray : ¬ Stray name := by simp [← isFileName_eq_false, h]
  simp only [Stray, not_or] at hstray
  obtain ⟨hempty, -, -, hslash, -⟩ := hstray
  have hjson : '/' ∉ (".json" : String).toList := by decide
  have hwhole : '/' ∉ (name ++ ".json").toList := by
    rw [String.toList_append, List.mem_append, not_or]
    exact ⟨hslash, hjson⟩
  have hlong : 5 < (name ++ ".json").length := by
    have hpos : name.length ≠ 0 := by simpa using hempty
    have hlength : (name ++ ".json").length = name.length + 5 := String.length_append _ _
    omega
  have hkept : Path.isKept (name ++ ".json") = true := by
    rw [Path.isKept, Bool.and_eq_true, decide_eq_true_eq, decide_eq_true_eq]
    constructor <;> (intro he; rw [he] at hlong; revert hlong; decide)
  have hstart : (name ++ ".json").toList.takeWhile (· = '/') = [] := by
    cases hcs : (name ++ ".json").toList with
    | nil => rfl
    | cons c rest =>
      rw [hcs, List.mem_cons, not_or] at hwhole
      rw [List.takeWhile_cons_of_neg]
      simpa using Ne.symm hwhole.1
  rw [Path.ofText, Path.leadingSlashes, hstart, Text.splitOn, splitAt_of_notMem hwhole]
  simp [hkept]

/-- The document of a template stands directly inside the folder. -/
lemma documentPath_eq (h : isFileName name = true) :
    documentPath root name = { root with parts := root.parts ++ [name ++ ".json"] } := by
  rw [documentPath, ofText_document h]
  rfl

lemma pathFor_eq (h : isFileName name = true) :
    folder.pathFor name = documentPath folder.root name :=
  (documentPath_eq h).symm

/-! ## One request -/

lemma supply_of_kept (h : get? folder.kept name = some template) (files : Files) :
    folder.supply files name = { answer := .ok template, folder, examined := [] } := by
  rw [TemplateFolder.supply, h]

lemma supply_of_stray (hk : get? folder.kept name = none) (h : isFileName name = false)
    (files : Files) :
    folder.supply files name = { answer := .error (.noTemplate name), folder, examined := [] } := by
  rw [TemplateFolder.supply, hk, h]
  rfl

lemma supply_of_unkept (hk : get? folder.kept name = none) (h : isFileName name = true) :
    (folder.supply files name).answer = load files (documentPath folder.root name) name ∧
      (folder.supply files name).examined = [documentPath folder.root name] := by
  rw [TemplateFolder.supply, hk, h, ← pathFor_eq h]
  dsimp only
  cases load files (folder.pathFor name) name <;> exact ⟨rfl, rfl⟩

/-- Nothing but the answered template is added to what is kept. -/
lemma supply_cases (files : Files) (folder : TemplateFolder) (name : String) :
    (∃ t, (folder.supply files name).answer = .ok t ∧
      ((folder.supply files name).folder = folder ∧ get? folder.kept name = some t ∨
        isFileName name = true ∧ get? folder.kept name = none ∧
          (folder.supply files name).folder = { folder with kept := put folder.kept name t })) ∨
    ∃ why, (folder.supply files name).answer = .error why ∧
      (folder.supply files name).folder = folder ∧ get? folder.kept name = none := by
  rw [TemplateFolder.supply]
  cases hk : get? folder.kept name with
  | some t => exact .inl ⟨t, rfl, .inl ⟨rfl, rfl⟩⟩
  | none =>
    cases hn : isFileName name with
    | false => exact .inr ⟨_, rfl, rfl, rfl⟩
    | true =>
      dsimp only
      cases load files (folder.pathFor name) name with
      | ok t => exact .inl ⟨t, rfl, .inr ⟨rfl, rfl, rfl⟩⟩
      | error why => exact .inr ⟨why, rfl, rfl, rfl⟩

lemma supply_root : (folder.supply files name).folder.root = folder.root := by
  rcases supply_cases files folder name with
    ⟨t, -, ⟨hf, -⟩ | ⟨-, -, hf⟩⟩ | ⟨-, -, hf, -⟩ <;> rw [hf]

lemma load_congr {path : Path} (h : files path = files' path) :
    load files path name = load files' path name := by
  rw [load, load, Files.readText, Files.readText, Files.read, Files.read, h]

/-! ## Courses of events -/

/-- What a folder keeps after some requests: the first template that was read under each name. -/
structure KeptSince (root : Path) (before : List FolderRequest) (folder : TemplateFolder) :
    Prop where
  root : folder.root = root
  kept : ∀ name, get? folder.kept name = firstTemplate name before
  named : ∀ name template, get? folder.kept name = some template → isFileName name = true

lemma keptSince_start (root : Path) : KeptSince root [] { root } where
  root := rfl
  kept := fun _ => rfl
  named := fun _ _ h => by cases h

lemma firstTemplate_append (name : String) (rs rs' : List FolderRequest) :
    firstTemplate name (rs ++ rs') = (firstTemplate name rs).or (firstTemplate name rs') :=
  List.findSome?_append

lemma firstTemplate_single (name : String) (r : FolderRequest) : firstTemplate name [r] =
    if r.name = name then r.supply.answer.toOption else none := by
  rw [firstTemplate, List.findSome?_singleton]

/-- Once a request for a name has been answered, the first template stays the first. -/
lemma firstTemplate_of_mem (h : KeptSince root before r.folder)
    (hr : r.supply.answer = .ok template) :
    firstTemplate r.name (before ++ [r]) = some template := by
  have hsingle : firstTemplate r.name [r] = some template := by
    rw [firstTemplate_single, if_pos rfl, hr]
    rfl
  rw [firstTemplate_append, hsingle, ← h.kept]
  rcases supply_cases r.files r.folder r.name with
    ⟨t, ht, ⟨-, hk⟩ | ⟨-, hk, -⟩⟩ | ⟨why, hwhy, -⟩
  · have : t = template := Except.ok.inj (ht.symm.trans hr)
    rw [hk, this]
    rfl
  · rw [hk]
    rfl
  · cases hwhy.symm.trans hr

lemma KeptSince.step (h : KeptSince root before r.folder) :
    KeptSince root (before ++ [r]) r.supply.folder := by
  have hfirst (n : String) := (firstTemplate_append n before [r]).trans
    (congrArg _ (firstTemplate_single n r))
  simp only [← h.kept] at hfirst
  rcases supply_cases r.files r.folder r.name with
    ⟨t, ht, ⟨hf, hk⟩ | ⟨hn, hk, hf⟩⟩ | ⟨why, hwhy, hf, -⟩
  · rw [FolderRequest.supply, hf]
    refine ⟨h.root, fun n => ?_, h.named⟩
    rw [hfirst n, FolderRequest.supply, ht]
    split
    next hrn => rw [← hrn, hk]; rfl
    next => rw [Option.or_none]
  · rw [FolderRequest.supply, hf]
    refine ⟨h.root, fun n => ?_, fun n t' hn' => ?_⟩
    · rw [hfirst n, FolderRequest.supply, ht, get?_put]
      by_cases hrn : r.name = n
      · rw [if_pos hrn.symm, if_pos hrn, ← hrn, hk]
        rfl
      · rw [if_neg (Ne.symm hrn), if_neg hrn, Option.or_none]
    · rw [get?_put] at hn'
      by_cases hrn : n = r.name
      · rw [hrn, hn]
      · rw [if_neg hrn] at hn'
        exact h.named n t' hn'
  · rw [FolderRequest.supply, hf]
    refine ⟨h.root, fun n => ?_, h.named⟩
    rw [hfirst n, FolderRequest.supply, hwhy]
    simp [Except.toOption]

lemma KeptSince.run (events : List FolderEvent) :
    ∀ {before : List FolderRequest} {files : Files} {folder : TemplateFolder},
      KeptSince root before folder → ∀ {middle after : List FolderRequest} {r : FolderRequest},
        requests files folder events = middle ++ r :: after →
          KeptSince root (before ++ middle) r.folder := by
  induction events with
  | nil =>
    intro before files folder _ middle after r hs
    simp [requests] at hs
  | cons event rest ih =>
    intro before files folder h middle after r hs
    cases event with
    | change files' => exact ih h hs
    | ask name =>
      rw [requests] at hs
      cases middle with
      | nil =>
        obtain ⟨rfl, -⟩ := List.cons_eq_cons.1 hs
        rwa [List.append_nil]
      | cons first middle =>
        obtain ⟨rfl, hrest⟩ := List.cons_eq_cons.1 hs
        have := ih (KeptSince.step (r := { name, files, folder }) h) hrest
        rwa [List.append_assoc] at this

/-! ## What each request is answered with -/

/-- How a folder answers a request that comes after some others. -/
structure AnsweredAfter (root : Path) (before : List FolderRequest) (r : FolderRequest) : Prop where
  /-- What was once supplied is supplied again, whatever the files are by now. -/
  kept : ∀ earlier ∈ before, earlier.name = r.name → ∀ template,
    earlier.supply.answer = .ok template → ∀ files,
      r.folder.supply files r.name = { answer := .ok template, folder := r.folder, examined := [] }
  /-- After failures alone the file is read as it is now. -/
  retried : (∀ earlier ∈ before, earlier.name = r.name →
      ∃ why, earlier.supply.answer = .error why) →
    ¬ Stray r.name →
      r.supply.answer = load r.files (documentPath root r.name) r.name ∧
        r.supply.examined = [documentPath root r.name]
  unkept : ∀ why, r.supply.answer = .error why → r.supply.folder = r.folder
  refused : Stray r.name → (Error.noTemplate r.name).kind = .templateLookup ∧ ∀ files,
    r.folder.supply files r.name =
      { answer := .error (.noTemplate r.name), folder := r.folder, examined := [] }
  confined : ∀ path ∈ r.supply.examined, path = documentPath root r.name ∧
    path.parent = root ∧ path.name = r.name ++ ".json"

lemma firstTemplate_eq_none (h : ∀ earlier ∈ before, earlier.name = name →
    ∃ why, earlier.supply.answer = .error why) : firstTemplate name before = none := by
  rw [firstTemplate, List.findSome?_eq_none_iff]
  intro earlier hmem
  split
  next hname =>
    obtain ⟨why, hwhy⟩ := h earlier hmem hname
    rw [hwhy]
    rfl
  next => rfl

/-- A request that some events led to sees what the requests before it have left. -/
lemma keptSince_of_requests (h : requests files { root } events = before ++ r :: after) :
    KeptSince root before r.folder :=
  (keptSince_start root).run events h

lemma get?_of_mem_before (h : requests files { root } events = before ++ r :: after)
    {earlier : FolderRequest} (hmem : earlier ∈ before)
    (he : earlier.supply.answer = .ok template) :
    get? r.folder.kept earlier.name = some template := by
  obtain ⟨first, last, rfl⟩ := List.append_of_mem hmem
  have hbefore : KeptSince root first earlier.folder := by
    have hsplit : requests files { root } events = first ++ earlier :: (last ++ r :: after) := by
      rw [h, List.append_assoc, List.cons_append]
    exact keptSince_of_requests hsplit
  have hfirst := firstTemplate_of_mem hbefore he
  rw [(keptSince_of_requests h).kept, ← List.singleton_append (l := last), ← List.append_assoc,
    firstTemplate_append, hfirst]
  rfl

lemma KeptSince.get?_eq_none (h : KeptSince root before folder) (hs : Stray name) :
    get? folder.kept name = none := by
  rw [Option.eq_none_iff_forall_ne_some]
  intro t ht
  cases (h.named name t ht).symm.trans (isFileName_eq_false.2 hs)

lemma mem_examined (h : folder.root = root) {path : Path}
    (hp : path ∈ (folder.supply files name).examined) :
    isFileName name = true ∧ path = documentPath root name := by
  cases hk : get? folder.kept name with
  | some t =>
    rw [supply_of_kept hk] at hp
    cases hp
  | none =>
    cases hn : isFileName name with
    | false =>
      rw [supply_of_stray hk hn] at hp
      cases hp
    | true =>
      rw [(supply_of_unkept hk hn).2, h, List.mem_singleton] at hp
      exact ⟨rfl, hp⟩

lemma answeredAfter_of_requests (h : requests files { root } events = before ++ r :: after) :
    AnsweredAfter root before r := by
  have hkept := keptSince_of_requests h
  constructor
  · intro earlier hmem hname template he files'
    have := get?_of_mem_before h hmem he
    rw [hname] at this
    exact supply_of_kept this files'
  · intro hfail hs
    have hnone : get? r.folder.kept r.name = none :=
      (hkept.kept r.name).trans (firstTemplate_eq_none hfail)
    have hn : isFileName r.name = true := by
      rwa [← isFileName_eq_false, Bool.not_eq_false] at hs
    rw [← hkept.root]
    exact supply_of_unkept hnone hn
  · intro why hwhy
    rcases supply_cases r.files r.folder r.name with
      ⟨t, ht, -⟩ | ⟨-, -, hf, -⟩
    · cases ht.symm.trans hwhy
    · exact hf
  · intro hs
    exact ⟨rfl, supply_of_stray (hkept.get?_eq_none hs) (isFileName_eq_false.2 hs)⟩
  · intro path hp
    obtain ⟨hn, rfl⟩ := mem_examined hkept.root hp
    rw [documentPath_eq hn]
    refine ⟨rfl, ?_, ?_⟩
    · rw [Path.parent, List.dropLast_concat]
    · rw [Path.name, List.getLastD_concat]

/-! ## Names apart -/

/-- What was answered to the requests for one name, and the files that were looked at for them. -/
def answersFor (name : String) (rs : List FolderRequest) :
    List (Except Error Template × List Path) :=
  (rs.filter (·.name = name)).map fun r => (r.supply.answer, r.supply.examined)

/-- What an event is to one name: new contents of its own file, or a request for it. -/
def concerning (root : Path) (name : String) : FolderEvent → Option (Option FileEntry)
  | .change files => some (some (files (documentPath root name)))
  | .ask asked => if asked = name then some none else none

/-- The answers of a folder that only one name is asked of, all files having the same contents. -/
def answersAlone (name : String) (entry : FileEntry) (folder : TemplateFolder) :
    List (Option FileEntry) → List (Except Error Template × List Path)
  | [] => []
  | some entry' :: rest => answersAlone name entry' folder rest
  | none :: rest =>
    let supply := folder.supply (fun _ => entry) name
    (supply.answer, supply.examined) :: answersAlone name entry supply.folder rest

/-- Two folders are alike for one name. -/
def AlikeFor (name : String) (folder folder' : TemplateFolder) : Prop :=
  folder.root = folder'.root ∧ get? folder.kept name = get? folder'.kept name

lemma supply_congr (files files' : Files) {folder' : TemplateFolder}
    (h : AlikeFor name folder folder')
    (hf : files (documentPath folder.root name) = files' (documentPath folder.root name)) :
    (folder.supply files name).answer = (folder'.supply files' name).answer ∧
      (folder.supply files name).examined = (folder'.supply files' name).examined ∧
      AlikeFor name (folder.supply files name).folder (folder'.supply files' name).folder := by
  obtain ⟨hroot, hk'⟩ := h
  cases hk : get? folder.kept name with
  | some t =>
    rw [supply_of_kept hk, supply_of_kept (hk'.symm.trans hk)]
    exact ⟨rfl, rfl, hroot, hk'⟩
  | none =>
    cases hn : isFileName name with
    | false =>
      rw [supply_of_stray hk hn, supply_of_stray (hk'.symm.trans hk) hn]
      exact ⟨rfl, rfl, hroot, hk'⟩
    | true =>
      have hload : load files (folder.pathFor name) name =
          load files' (folder'.pathFor name) name := by
        rw [pathFor_eq hn, pathFor_eq hn, ← hroot]
        exact load_congr hf
      have hpath : folder.pathFor name = folder'.pathFor name := by
        rw [pathFor_eq hn, pathFor_eq hn, hroot]
      rw [TemplateFolder.supply, TemplateFolder.supply, hk, hk'.symm.trans hk, hn]
      dsimp only
      rw [hload, hpath]
      cases load files' (folder'.pathFor name) name with
      | ok t =>
        refine ⟨rfl, rfl, hroot, ?_⟩
        show get? (put folder.kept name t) name = get? (put folder'.kept name t) name
        rw [get?_put, get?_put, if_pos rfl, if_pos rfl]
      | error why => exact ⟨rfl, rfl, hroot, hk'⟩

lemma supply_other {other : String} (h : other ≠ name) (files : Files) :
    AlikeFor name (folder.supply files other).folder folder := by
  rcases supply_cases files folder other with
    ⟨t, -, ⟨hf, -⟩ | ⟨-, -, hf⟩⟩ | ⟨-, -, hf, -⟩
  · rw [hf]
    exact ⟨rfl, rfl⟩
  · rw [hf]
    refine ⟨rfl, ?_⟩
    rw [get?_put, if_neg (Ne.symm h)]
  · rw [hf]
    exact ⟨rfl, rfl⟩

lemma AlikeFor.trans {first second third : TemplateFolder} (h : AlikeFor name first second)
    (h' : AlikeFor name second third) : AlikeFor name first third :=
  ⟨h.1.trans h'.1, h.2.trans h'.2⟩

lemma answersFor_requests (name : String) (events : List FolderEvent) :
    ∀ (files : Files) {folder folder' : TemplateFolder}, AlikeFor name folder folder' →
      answersFor name (requests files folder events) =
        answersAlone name (files (documentPath folder.root name)) folder'
          (events.filterMap (concerning folder.root name)) := by
  induction events with
  | nil => intros; rfl
  | cons event rest ih =>
    intro files folder folder' h
    cases event with
    | change files' => exact ih files' h
    | ask asked =>
      rw [requests, List.filterMap_cons, concerning, answersFor]
      by_cases hasked : asked = name
      · subst hasked
        obtain ⟨hanswer, hexamined, halike⟩ :=
          supply_congr files (fun _ => files (documentPath folder.root asked)) h rfl
        have hrest := ih files halike
        rw [supply_root] at hrest
        rw [if_pos rfl, List.filter_cons_of_pos (by simp), List.map_cons]
        exact congrArg₂ List.cons (Prod.ext hanswer hexamined) hrest
      · have hrest := ih files ((supply_other hasked files).trans h)
        rw [supply_root] at hrest
        rw [if_neg hasked, List.filter_cons_of_neg (by simpa using hasked)]
        exact hrest

/-- Whatever becomes of the files, a template that was once supplied is supplied ever after, a
failure leaves no trace, and only the document of a name, directly inside the folder, and the
requests for that name decide what is answered to it. -/
theorem folder_answers (root : Path) (files : Files) (events : List FolderEvent) :
    (∀ before r after, requests files { root } events = before ++ r :: after →
      AnsweredAfter root before r) ∧
    ∀ name files' events', files (documentPath root name) = files' (documentPath root name) →
      events.filterMap (concerning root name) = events'.filterMap (concerning root name) →
        answersFor name (requests files { root } events) =
          answersFor name (requests files' { root } events') := by
  refine ⟨fun before r after => answeredAfter_of_requests, ?_⟩
  intro name files' events' hfiles h
  have hsame : AlikeFor name { root } { root } := ⟨rfl, rfl⟩
  rw [answersFor_requests name events files hsame, answersFor_requests name events' files' hsame,
    hfiles]
  exact congrArg _ h

/-! A template that is not there at first, then is, and then is deleted. -/

def shelves : Path := { slashes := 1, parts := ["srv", "shelves"] }

def noFiles : Files := fun _ => .missing

/-- The document `{"width":16,"height":8}`. -/
def crestDocument : Text.Bytes :=
  [123, 34, 119, 105, 100, 116, 104, 34, 58, 49, 54, 44, 34, 104, 101, 105, 103, 104, 116, 34, 58,
    56, 125]

def crestFile : Files := fun path =>
  if path = documentPath shelves "crest" then .file crestDocument else .missing

def crest : Template := { name := "crest", width := 16, height := 8, fields := [] }

def isCrest : Except Error Template → Bool
  | .ok { name := "crest", width := 16, height := 8, fields := [] } => true
  | _ => false

lemma eq_of_isCrest {answer : Except Error Template} (h : isCrest answer = true) :
    answer = .ok crest := by
  unfold isCrest at h
  split at h
  · rfl
  · cases h

lemma load_crestFile : load crestFile (documentPath shelves "crest") "crest" = .ok crest :=
  eq_of_isCrest (by decide +kernel)

def unshelved : TemplateFolder := { root := shelves }

def shelved : TemplateFolder := { root := shelves, kept := [("crest", crest)] }

/-- The template is asked for before its file is there, while it is, and when it is gone again. -/
def crestEvents : List FolderEvent :=
  [.ask "crest", .change crestFile, .ask "crest", .ask "../crest", .change noFiles, .ask "crest"]

lemma crest_requests : requests noFiles unshelved crestEvents =
    [⟨"crest", noFiles, unshelved⟩, ⟨"crest", crestFile, unshelved⟩,
      ⟨"../crest", crestFile, shelved⟩, ⟨"crest", noFiles, shelved⟩] := by
  have hfound : (unshelved.supply crestFile "crest").folder = shelved := by
    have hload : load crestFile (unshelved.pathFor "crest") "crest" = .ok crest := load_crestFile
    rw [TemplateFolder.supply]
    dsimp only
    rw [hload]
    rfl
  have hmissing : (unshelved.supply noFiles "crest").folder = unshelved := rfl
  have hstray : (shelved.supply crestFile "../crest").folder = shelved := rfl
  simp only [crestEvents, requests, FolderRequest.supply, hmissing, hfound, hstray]

theorem crest_answers :
    (∀ files, shelved.supply files "crest" =
      { answer := .ok crest, folder := shelved, examined := [] }) ∧
    (unshelved.supply crestFile "crest").examined = [documentPath shelves "crest"] ∧
    (shelved.supply crestFile "../crest").examined = [] ∧
    answersFor "crest" (requests noFiles unshelved crestEvents) =
      answersFor "crest" (requests noFiles unshelved
        [.ask "crest", .change crestFile, .ask "notes", .ask "crest", .change noFiles,
          .ask "crest"]) := by
  obtain ⟨hanswered, halike⟩ := folder_answers shelves noFiles crestEvents
  have hread : (unshelved.supply crestFile "crest").answer = .ok crest :=
    (supply_of_unkept rfl rfl).1.trans load_crestFile
  have hmissing : (unshelved.supply noFiles "crest").answer = .error (.noTemplate "crest") := rfl
  have first := hanswered [⟨"crest", noFiles, unshelved⟩] ⟨"crest", crestFile, unshelved⟩ _
    crest_requests
  have stray := hanswered [⟨"crest", noFiles, unshelved⟩, ⟨"crest", crestFile, unshelved⟩]
    ⟨"../crest", crestFile, shelved⟩ _ crest_requests
  have last := hanswered
    [⟨"crest", noFiles, unshelved⟩, ⟨"crest", crestFile, unshelved⟩,
      ⟨"../crest", crestFile, shelved⟩]
    ⟨"crest", noFiles, shelved⟩ [] crest_requests
  refine ⟨?_, ?_, ?_, ?_⟩
  · exact last.kept ⟨"crest", crestFile, unshelved⟩ (by simp) rfl crest hread
  · have hplain : ¬ Stray "crest" := by rw [← isFileName_eq_false]; decide
    refine (first.retried ?_ hplain).2
    intro earlier hmem _
    obtain rfl := List.mem_singleton.1 hmem
    exact ⟨_, hmissing⟩
  · have hstray : Stray "../crest" := isFileName_eq_false.1 rfl
    rw [(stray.refused hstray).2 crestFile]
  · exact halike "crest" noFiles _ rfl rfl

end CardDrawing.Proofs
