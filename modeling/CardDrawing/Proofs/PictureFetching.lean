import CardDrawing.Loading
import CardDrawing.Proofs.DocumentFailures

/-!
# Fetching pictures

A url that splits is sent to one of two fetchers by its scheme, whoever asks, and what goes wrong
there is told as a failure of loading. A url whose host is malformed is not sent anywhere, and the
error says nothing of loading.
-/

namespace CardDrawing

namespace Loading
open Proofs (Untold)

/-- At a url the outside world makes nothing but reports: of files that cannot be read, of requests
that fail, and of bytes that are no picture. -/
structure OnlyReports (places : Places) (client : Web.Client) (url : String) : Prop where
  read : ∀ path why, localPath url = .ok path → places.files.read path = .error why → Untold why
  request : Url.NamesWeb url →
    ∀ why, (client.get places.network url).run.1 = .error why → Untold why
  decode : ∀ bytes why, readLocal .image places.files url = .ok bytes ∨
    Url.NamesWeb url ∧ (fetch .image places.network client url).run.1 = .ok bytes →
      Netpbm.decode bytes = .error why → Untold why

/-- A picture that cannot be loaded, told with the url that was asked for. -/
inductive FetchFailure (url : String) : Error → Prop where
  | scheme (name : String) : FetchFailure url (.unsupportedScheme name url)
  | step (step : LoadStep) (what : Outage) :
      FetchFailure url (.loadFailed step .image url (.outage what))

/-- What comes of asking for the picture at a url. -/
structure PictureJudged (places : Places) (client : Web.Client) (url : String) : Prop where
  web : ∀ parts, Url.ofText url = .ok parts → Url.NamesWeb url →
    ∀ {κ α : Type} (f : Fetchers κ α) (patience : Patience),
      f.fetch patience url = f.web patience url
  file : ∀ parts, Url.ofText url = .ok parts → ¬ Url.NamesWeb url →
    ∀ {κ α : Type} (f : Fetchers κ α) (patience : Patience), f.fetch patience url = f.file url
  told : ∀ parts, Url.ofText url = .ok parts → ∀ patience why,
    ((fetchers places client).fetch patience url).run.1 = .error why →
      FetchFailure url why ∧ why.kind = .resourceResolution
  untold : ∀ why, Url.ofText url = .error why →
    (∀ {κ α : Type} (f : Fetchers κ α) (patience : Patience),
      (f.fetch patience url).run = (.error why, [])) ∧
    why.kind = .value ∧ ∃ c ∈ Url.hostText url, Url.isSuspect c = true

end Loading

namespace Proofs
open Loading

/-! ## Sending a url to its fetcher -/

section

variable {κ α : Type} (f : Fetchers κ α) (patience : Patience) {url : String} {parts : Url}

lemma fetch_eq (h : Url.ofText url = .ok parts) :
    f.fetch patience url = if Url.NamesWeb url then f.web patience url else f.file url := by
  unfold Fetchers.fetch
  rw [isHttpUrl_eq h]
  by_cases hweb : Url.NamesWeb url
  · rw [if_pos hweb, decide_eq_true hweb]
    rfl
  · rw [if_neg hweb, decide_eq_false hweb]
    rfl

lemma run_fetch_of_error {why : Error} (h : Url.ofText url = .error why) :
    (f.fetch patience url).run = (.error why, []) := by
  have hread : isHttpUrl url = .error why := by
    rw [isHttpUrl, h]
    rfl
  unfold Fetchers.fetch
  rw [hread]
  rfl

end

/-! ## Failures of a fetcher -/

section

variable {places : Loading.Places} {client : Web.Client} {url : String}

/-- What is reported during a step of loading is told with the url. -/
lemma duringStep_fails {β : Type} (step : LoadStep) {result : Except Error β}
    (h : FailsOnly Untold result) :
    FailsOnly (FetchFailure url) (duringStep step .image url result) := by
  intro why hwhy
  cases result with
  | ok b => cases hwhy
  | error reported =>
    obtain ⟨what, rfl⟩ := h reported rfl
    obtain rfl := Except.error.inj hwhy
    exact .step step what

lemma decodePicture_fails {bytes : Text.Bytes} (h : FailsOnly Untold (Netpbm.decode bytes)) :
    FailsOnly (FetchFailure url) (decodePicture url bytes) :=
  duringStep_fails .decode h

lemma localPath_fails {parts : Url} (hparts : Url.ofText url = .ok parts) :
    FailsOnly (FetchFailure url) (localPath url) := by
  unfold localPath
  rw [hparts]
  refine FailsOnly.ite (fun _ => FailsOnly.ok) fun _ => ?_
  exact FailsOnly.ite (fun _ => FailsOnly.error (.scheme _)) fun _ => FailsOnly.ok

lemma localPicture_fails {parts : Url} (hparts : Url.ofText url = .ok parts)
    (h : OnlyReports places client url) :
    FailsOnly (FetchFailure url) (localPicture places.files url) := by
  have hread : FailsOnly (FetchFailure url) (readLocal .image places.files url) := by
    refine (localPath_fails hparts).bind fun path hpath => ?_
    exact duringStep_fails .read fun why hwhy => h.read path why hpath hwhy
  refine hread.bind fun bytes hbytes => ?_
  exact decodePicture_fails fun why hwhy => h.decode bytes why (.inl hbytes) hwhy

lemma run_webPicture (places : Loading.Places) (client : Web.Client) (url : String) :
    (webPicture places.network client url).run.1 =
      (Loading.fetch .image places.network client url).run.1 >>= decodePicture url :=
  outcome_bind_lift _ _

lemma webPicture_fails (hweb : Url.NamesWeb url) (h : OnlyReports places client url) :
    FailsOnly (FetchFailure url) (webPicture places.network client url).run.1 := by
  have hfetch : FailsOnly (FetchFailure url)
      (Loading.fetch .image places.network client url).run.1 :=
    duringStep_fails .fetch (h.request hweb)
  rw [run_webPicture]
  refine hfetch.bind fun bytes hbytes => ?_
  exact decodePicture_fails fun why hwhy => h.decode bytes why (.inr ⟨hweb, hbytes⟩) hwhy

lemma fetch_fails {parts : Url} (hparts : Url.ofText url = .ok parts)
    (h : OnlyReports places client url) (patience : Patience) :
    FailsOnly (FetchFailure url) ((fetchers places client).fetch patience url).run.1 := by
  rw [fetch_eq _ _ hparts]
  split
  · exact webPicture_fails ‹_› h
  · exact localPicture_fails hparts h

lemma kind_of_fetchFailure {why : Error} (h : FetchFailure url why) :
    why.kind = .resourceResolution := by
  cases h <;> rfl

end

/-! ## Pictures -/

/-- As long as the outside world only makes reports, a url that splits leads to a picture or to a
failure of loading, from the one fetcher that its scheme stands for. A url whose host is malformed
leads to neither. -/
theorem picture_fetching_judged (places : Loading.Places) (client : Web.Client) (url : String)
    (h : OnlyReports places client url) : PictureJudged places client url where
  web _ hparts hweb _ _ f patience := (fetch_eq f patience hparts).trans (if_pos hweb)
  file _ hparts hother _ _ f patience := (fetch_eq f patience hparts).trans (if_neg hother)
  told _ hparts patience why hwhy :=
    have hfailure := fetch_fails hparts h patience why hwhy
    ⟨hfailure, kind_of_fetchFailure hfailure⟩
  untold why hwhy :=
    ⟨fun f patience => run_fetch_of_error f patience hwhy, ofText_fails url why hwhy,
      suspect_of_checkHost (ofText_eq_error.mp hwhy)⟩

/-- A black dot. -/
def dotBytes : Text.Bytes := Text.encodeUtf8 "P5 1 1 255 " ++ [0]

/-- No files, and a picture in the network. -/
def museum : Loading.Places where
  files _ := .missing
  network url := if url = "http://museum.example/dot.pgm" then some { body := dotBytes } else none

lemma read_museum (path : Path) {why : Error} (h : museum.files.read path = .error why) :
    Untold why := by
  obtain rfl : Error.outage .fileNotFound = why := Except.error.inj h
  exact ⟨_, rfl⟩

lemma readLocal_museum (url : String) (bytes : Text.Bytes) :
    readLocal .image museum.files url ≠ .ok bytes := by
  intro h
  obtain ⟨path, -, h⟩ := bind_eq_ok.mp h
  cases h

lemma decode_dotBytes : ∃ picture, Netpbm.decode dotBytes = .ok picture := by
  have hsome : (Netpbm.decode dotBytes).toOption.isSome = true := by decide +kernel
  obtain ⟨picture, hpicture⟩ := Option.isSome_iff_exists.mp hsome
  exact ⟨picture, eq_ok_of_toOption hpicture⟩

/-- A scheme in capital letters. -/
def dotUrl : String := "HTTP://Museum.example/dot.pgm"

lemma get_dotUrl : (visitor.get museum.network dotUrl).run.1 = .ok dotBytes :=
  eq_ok_of_toOption (by decide +kernel)

lemma namesWeb_dotUrl : Url.NamesWeb dotUrl := by decide +kernel

lemma fetch_dotUrl : (Loading.fetch .image museum.network visitor dotUrl).run.1 = .ok dotBytes := by
  change duringStep .fetch .image dotUrl (visitor.get museum.network dotUrl).run.1 = _
  rw [get_dotUrl]
  rfl

lemma onlyReports_dotUrl : OnlyReports museum visitor dotUrl where
  read path _ _ h := read_museum path h
  request _ why h := by
    rw [get_dotUrl] at h
    cases h
  decode bytes why hbytes h := by
    rcases hbytes with hbytes | ⟨-, hbytes⟩
    · exact absurd hbytes (readLocal_museum _ _)
    · rw [fetch_dotUrl] at hbytes
      obtain rfl := Except.ok.inj hbytes
      obtain ⟨picture, hpicture⟩ := decode_dotBytes
      rw [hpicture] at h
      cases h

lemma ofText_dotUrl : ∃ parts, Url.ofText dotUrl = .ok parts := by
  have hsome : (Url.ofText dotUrl).toOption.isSome = true := by decide +kernel
  obtain ⟨parts, hparts⟩ := Option.isSome_iff_exists.mp hsome
  exact ⟨parts, eq_ok_of_toOption hparts⟩

/-- The picture of the museum is fetched from the network, and not looked for among the files. -/
theorem dot_fetched : OnlyReports museum visitor dotUrl ∧ Url.NamesWeb dotUrl ∧
    (fetchers museum visitor).fetch .waiting dotUrl = webPicture museum.network visitor dotUrl ∧
    ∃ picture, ((fetchers museum visitor).fetch .waiting dotUrl).run.1 = .ok picture := by
  have hjudged := picture_fetching_judged museum visitor dotUrl onlyReports_dotUrl
  obtain ⟨parts, hparts⟩ := ofText_dotUrl
  have hroute : (fetchers museum visitor).fetch .waiting dotUrl =
      webPicture museum.network visitor dotUrl :=
    hjudged.web parts hparts namesWeb_dotUrl _ .waiting
  obtain ⟨picture, hpicture⟩ := decode_dotBytes
  refine ⟨onlyReports_dotUrl, namesWeb_dotUrl, hroute, picture, ?_⟩
  rw [hroute, run_webPicture, fetch_dotUrl]
  change decodePicture dotUrl dotBytes = _
  rw [decodePicture, hpicture]
  rfl

/-- A host that begins with a bracket and is not closed. -/
def bracketUrl : String := "file://[/dot.pgm"

lemma onlyReports_bracketUrl : OnlyReports museum visitor bracketUrl where
  read path _ _ h := read_museum path h
  request hweb := absurd hweb (by decide +kernel)
  decode bytes _ hbytes _ := by
    rcases hbytes with hbytes | ⟨hweb, -⟩
    · exact absurd hbytes (readLocal_museum _ _)
    · exact absurd hweb (by decide +kernel)

/-- A bracket that is left open in a url passes for an error of another kind. -/
theorem open_bracket_untold : OnlyReports museum visitor bracketUrl ∧
    ((fetchers museum visitor).fetch .immediate bracketUrl).run = (.error .bracketedHost, []) ∧
    ((fetchers museum visitor).fetch .waiting bracketUrl).run = (.error .bracketedHost, []) ∧
    Error.bracketedHost.kind ≠ .resourceResolution := by
  have hurl : Url.ofText bracketUrl = .error .bracketedHost := by with_unfolding_all rfl
  exact ⟨onlyReports_bracketUrl, run_fetch_of_error _ _ hurl, run_fetch_of_error _ _ hurl,
    by decide⟩

end Proofs

end CardDrawing
