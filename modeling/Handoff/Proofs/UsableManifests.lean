import Handoff.Manifest.Reading
import Handoff.Proofs.PageSections
import Handoff.Proofs.ResolvedPictures
import Handoff.Proofs.ServiceAddresses
import Handoff.Site.Fetch
import Mathlib.Data.List.DropRight

/-! Manifests that can be read and a client's own demands. A layer's id and a scale that a
manifest may have are what a client asks for. The key of a file and the address of the service
are not: a manifest needs no more than a key that is not blank and the beginning of an address,
and a client that is given less than it asks for refuses to make the request. -/

namespace Handoff

private theorem Text.dropFinal_append {p : Char → Bool} {c : Char} (stays : p c = false) (front rest : List Char) :
    dropFinal p (front ++ c :: rest) = front ++ c :: dropFinal p rest := by
  have stop : ¬p c = true := by simp [stays]
  rw [dropFinal, dropFinal, List.reverse_append, List.reverse_cons, List.append_assoc, List.singleton_append,
    List.dropWhile_append]
  split
  next none => simp [List.dropWhile_cons_of_neg stop, List.isEmpty_iff.mp none]
  next => simp

namespace Manifest
open Service

variable {manifest : Manifest}

private theorem isAccepted_of_read {source : SourceText} (accepted : Manifest.read source = .ok manifest) :
    manifest.IsAccepted := by
  rw [Manifest.read] at accepted
  split at accepted
  next => cases accepted
  next found =>
    split at accepted
    next clean =>
      cases accepted
      exact clean
    next => cases accepted

private theorem IsAccepted.nodeId (accepted : manifest.IsAccepted) : Text.trim manifest.source.nodeId ≠ "" := by
  simp only [IsAccepted, flaws, Source.flaws, emptyFlaws, List.append_eq_nil_iff, flawIf_eq_nil, String.isEmpty_eq_false_iff] at accepted
  exact accepted.1.1.1.1.1.1.2

private theorem IsAccepted.isWebAddress (accepted : manifest.IsAccepted) : isWebAddress manifest.source.baseUrl = true := by
  simp only [IsAccepted, flaws, Source.flaws, List.append_eq_nil_iff, flawIf_eq_nil, Bool.not_eq_false'] at accepted
  exact accepted.1.1.1.1.2

private theorem IsAccepted.scale (accepted : manifest.IsAccepted) : 0 < manifest.assets.scale ∧ manifest.assets.scale ≤ 4 := by
  simp only [IsAccepted, flaws, Assets.flaws, List.append_eq_nil_iff, flawIf_eq_nil, Bool.not_eq_false', isScale,
    Bool.and_eq_true, decide_eq_true_eq] at accepted
  exact accepted.1.1.2

/-- The address of the service, below which requests are made. -/
def address (manifest : Manifest) : String := String.ofList (Text.dropFinal (· == '/') manifest.source.baseUrl.toList)

theorem IsAccepted.address (accepted : manifest.IsAccepted) :
    ∃ scheme after, (scheme = "http" ∨ scheme = "https") ∧ manifest.address.toList = scheme.toList ++ ':' :: after := by
  have web := accepted.isWebAddress
  rw [Manifest.isWebAddress, Bool.or_eq_true, List.isPrefixOf_iff_prefix, List.isPrefixOf_iff_prefix] at web
  rw [Manifest.address, String.toList_ofList]
  rcases web with ⟨rest, same⟩ | ⟨rest, same⟩
  · exact ⟨"https", _, .inr rfl, same ▸ Text.dropFinal_append rfl "https".toList ('/' :: '/' :: rest)⟩
  · exact ⟨"http", _, .inl rfl, same ▸ Text.dropFinal_append rfl "http".toList ('/' :: '/' :: rest)⟩

/-- A request is refused if its address cannot be read. -/
theorem request_eq_error_iff {token path : String} {parameters : List (String × String)} {failure : Service.Failure} :
    (manifest.settings token).request path parameters = .error failure ↔
      ∃ error, Url.read (manifest.address ++ "/" ++ path) = .error error ∧ failure = .invalid (.url error) := by
  have base : String.ofList (Text.dropFinal (· == '/') (manifest.settings token).baseUrl.toList) = manifest.address := by
    rw [settings, String.toList_ofList, address]
    exact congrArg String.ofList (List.rdropWhile_idempotent _ _)
  rw [Settings.request, base]
  cases Url.read (manifest.address ++ "/" ++ path) with
  | ok url => simp
  | error error => simp [eq_comm]

/-- What a client has against the source of a manifest. -/
inductive Refused (manifest : Manifest) : InvalidRequest → Prop where
  | fileKey (bad : ¬IsKey manifest.source.fileKey) : Refused manifest (.fileKey manifest.source.fileKey)
  | address {error} (key : IsKey manifest.source.fileKey) (unreadable : Url.read (manifest.address ++ "/" ++ "files") = .error error) :
      Refused manifest (.url error)

private theorem IsAccepted.read_alike (accepted : manifest.IsAccepted) {segment rest : String} (filled : segment ≠ "")
    (plain : ∀ c ∈ segment.toList, c.isAlphanum = true) (shown : ∀ c ∈ rest.toList, ' ' < c) :
    FailAlike (Url.read (manifest.address ++ "/" ++ (segment ++ "/" ++ rest))) (Url.read (manifest.address ++ "/" ++ segment)) := by
  obtain ⟨scheme, after, web, shape⟩ := accepted.address
  exact Url.read_below web shape filled plain shown

private theorem IsAccepted.fetchRequest_iff (accepted : manifest.IsAccepted) (key : IsKey manifest.source.fileKey)
    {token : String} {ids : List String} {reason : InvalidRequest} :
    (manifest.settings token).fetchRequest manifest.source.fileKey ids = .error (.invalid reason) ↔ manifest.Refused reason := by
  have shown : ∀ c ∈ (manifest.source.fileKey ++ "/nodes").toList, ' ' < c := by
    simp only [String.toList_append, List.mem_append]
    rintro c (inside | inside)
    · exact Url.isAlphanum_gt_space (key.2 c inside)
    · revert c
      decide
  have path : "files/" ++ manifest.source.fileKey ++ "/nodes" = "files" ++ "/" ++ (manifest.source.fileKey ++ "/nodes") :=
    String.append_assoc
  have alike : FailAlike _ (Url.read (manifest.address ++ "/" ++ "files")) :=
    accepted.read_alike (by decide) (by decide) shown
  rw [Settings.fetchRequest, request_eq_error_iff, path]
  constructor
  · rintro ⟨error, failed, same⟩
    cases same
    exact .address key ((alike error).mp failed)
  · rintro (bad | ⟨-, unreadable⟩)
    · exact absurd key bad
    · exact ⟨_, (alike _).mpr unreadable, rfl⟩

/-- Nothing is wrong with a request for pictures unless it is wrong with the request for the document. -/
theorem IsAccepted.exportRequest (accepted : manifest.IsAccepted) (sound : ∀ reason, ¬manifest.Refused reason) (token : String)
    (ids : List String) {asked : Export} (same : asked.fileKey = manifest.source.fileKey) :
    ∃ request, (manifest.settings token).exportRequest asked ids = .ok request := by
  have key : IsKey manifest.source.fileKey := not_not.mp fun bad => sound _ (.fileKey bad)
  have shown : ∀ c ∈ asked.fileKey.toList, ' ' < c := fun c inside => Url.isAlphanum_gt_space (key.2 c (same ▸ inside))
  obtain ⟨scheme, after, web, shape⟩ := accepted.address
  have below : FailAlike _ (Url.read (manifest.address ++ "/" ++ "images")) :=
    Url.read_below web shape (by decide) (by decide) shown
  have alike := below.trans (Url.read_files_alike web shape).symm
  cases made : (manifest.settings token).exportRequest asked ids with
  | ok request => exact ⟨request, rfl⟩
  | error failure =>
    obtain ⟨error, failed, -⟩ := request_eq_error_iff.mp made
    exact absurd (.address key ((alike error).mp failed)) (sound _)

end Manifest

namespace Service

variable {transport : Transport} {fileKey : String} {ids : List String} {client : Client}

private theorem ofResponse_ne_invalid {response : Response} {reason : InvalidRequest} :
    Failure.ofResponse response fileKey ids ≠ .invalid reason := by
  rw [Failure.ofResponse]
  split <;> nofun

/-- An answer says nothing about what is wrong with a request. -/
theorem documentOf_ne_invalid {request : Request} {answer : Option Response} {reason : InvalidRequest} :
    documentOf fileKey ids request answer ≠ .error (.invalid reason) := by
  have body : bodyOf request fileKey ids answer ≠ .error (.invalid reason) := by
    unfold bodyOf
    split
    · nofun
    · split
      · nofun
      · exact fun same => ofResponse_ne_invalid (Except.error.inj same)
  intro same
  rw [documentOf] at same
  cases came : bodyOf request fileKey ids answer with
  | error failure =>
    rw [came] at same body
    injection same with same
    exact body (congrArg _ same)
  | ok text =>
    rw [came] at same
    simp only [bind, Except.bind] at same
    split at same
    · cases same
    · split at same <;> cases same

/-- The only thing that can be wrong with asking for one layer, if its id is not blank. -/
theorem checkFetch_eq_error_iff {id : String} (shown : Text.trim id ≠ "") {failure : Failure} :
    checkFetch fileKey [id] = .error failure ↔ ¬IsKey fileKey ∧ failure = .invalid (.fileKey fileKey) := by
  have named : ¬([id].isEmpty = true ∨ [id].any (fun id => (Text.trim id).isEmpty) = true) := by simp [shown]
  rw [← checkFileKey_eq_ok_iff, checkFetch, checkFileKey, if_neg named]
  cases isFileKey fileKey <;> simp [bind, Except.bind, pure, Except.pure, eq_comm]

/-- A document that is asked for is refused before an answer comes: by the check or, if nothing
is remembered, because there is no request to make. -/
theorem Client.fetch_invalid_iff {now : Nat} {reason : InvalidRequest} :
    (client.fetch transport now fileKey ids).1 = .error (.invalid reason) ↔
      checkFetch fileKey ids = .error (.invalid reason) ∨ checkFetch fileKey ids = .ok () ∧
        (client.cache.lookup client.settings.timeToLive now (.ofIds fileKey ids)).1 = none ∧
        client.settings.fetchRequest fileKey ids = .error (.invalid reason) := by
  rw [Client.fetch]
  cases checkFetch fileKey ids with
  | error failure => simp
  | ok =>
    simp only
    cases client.cache.lookup client.settings.timeToLive now (.ofIds fileKey ids) with
    | mk document cache =>
      cases document with
      | some document => simp
      | none =>
        simp only [Client.retrieve]
        cases client.settings.fetchRequest fileKey ids with
        | error failure => simp
        | ok request =>
          simp only
          cases came : documentOf fileKey ids request (transport client.sent request) with
          | error failure =>
            simp only [Except.error.injEq]
            have answered : failure ≠ .invalid reason := fun same => documentOf_ne_invalid (same ▸ came)
            simp [answered]
          | ok document => simp

private theorem exportPictures_error {asked : Export} (valid : asked.IsValid) {failure : Failure}
    (failed : (client.exportPictures transport asked ids).1 = .error failure) : failure.IsDenial := by
  cases found : (client.outcomes transport asked ids).findSome? denial? with
  | none =>
    have allowed := List.findSome?_eq_none_iff.mp found
    obtain ⟨pictures, exported, -⟩ :=
      Client.exportPictures_of_allowed valid fun outcome member => denial?_eq_none_iff.mp (allowed outcome member)
    cases failed.symm.trans exported
  | some denial =>
    obtain ⟨outcome, -, denied⟩ := List.exists_of_findSome?_eq_some found
    cases failed.symm.trans (Client.exportPictures_of_denied valid found)
    exact (denial?_eq_some_iff.mp denied).2

/-- Pictures that are asked for properly are missing altogether only where they are denied. -/
theorem resolveDesign_failure {asked : Export} (valid : asked.IsValid) {design : Design} {failure : Failure}
    (failed : (client.resolveDesign transport asked design).1.failure = some failure) : failure.IsDenial := by
  obtain ⟨report, after, last, done, resolved⟩ := resolve_partitions transport asked design client
  rw [done] at failed
  exact exportPictures_error valid ((resolved.failure failure).mp failed).2

end Service

namespace Site
open Service

variable {manifest : Manifest}

theorem fetch_error_iff {transport : Transport} {now : Nat} {withAssets : Bool} {client : Client} {failure : Service.Failure} :
    (fetch transport now manifest withAssets client).1 = .error (.service failure) ↔
      (client.fetch transport now manifest.source.fileKey [manifest.source.nodeId]).1 = .error failure := by
  rw [fetch]
  cases client.fetch transport now manifest.source.fileKey [manifest.source.nodeId] with
  | mk result client =>
    cases result with
    | error failure => simp
    | ok document =>
      simp only
      split
      · simp
      · split <;> simp

private theorem fetch_report {transport : Transport} {now : Nat} {withAssets : Bool} {client : Client} {fetched : Fetched}
    {report : AssetReport} (done : (fetch transport now manifest withAssets client).1 = .ok fetched)
    (listed : fetched.assets = some report) :
    IsKey manifest.source.fileKey ∧ ∃ (between : Client) (design : Design), report =
      (between.resolveDesign transport ⟨manifest.source.fileKey, manifest.assets.format, manifest.assets.scale⟩ design).1 := by
  obtain ⟨result, after, asked, fetches⟩ := client.fetches transport now manifest.source.fileKey [manifest.source.nodeId]
  rw [fetch, asked] at done
  cases result with
  | error failure => cases done
  | ok document =>
    have key : IsKey manifest.source.fileKey := by
      cases fetches with
      | recalled question => exact question.1
      | received question => exact question.1
    simp only at done
    split at done
    · cases done
    · split at done
      · cases done
        exact ⟨key, after, _, (Option.some.inj listed).symm⟩
      · cases done
        cases listed

/-- The client of a manifest that can be read refuses to fetch exactly where the key of the file
or the address of the service is not what it asks for. Then it does so whatever the service would
answer; otherwise the pictures are not refused either, and no request for them. -/
theorem fetch_refused {source : Manifest.SourceText} (accepted : Manifest.read source = .ok manifest) (token : String) :
    (∀ transport now withAssets (client : Client) reason, client.settings = manifest.settings token →
      (fetch transport now manifest withAssets client).1 = .error (.service (.invalid reason)) → manifest.Refused reason) ∧
    (∀ transport now withAssets reason, manifest.Refused reason →
      (fetch transport now manifest withAssets (.ofSettings (manifest.settings token))).1 =
        .error (.service (.invalid reason))) ∧
    (∀ transport now withAssets (client : Client) fetched report reason,
      (fetch transport now manifest withAssets client).1 = .ok fetched → fetched.assets = some report →
      report.failure ≠ some (.invalid reason)) ∧
    ((∀ reason, ¬manifest.Refused reason) → ∀ (asked : Export) ids, asked.fileKey = manifest.source.fileKey →
      ∃ request, (manifest.settings token).exportRequest asked ids = .ok request) := by
  have clean := Manifest.isAccepted_of_read accepted
  refine ⟨?_, ?_, ?_, ?_⟩
  · intro transport now withAssets client reason same failed
    rcases Client.fetch_invalid_iff.mp (fetch_error_iff.mp failed) with checked | ⟨question, -, unbuilt⟩
    · obtain ⟨bad, same⟩ := (checkFetch_eq_error_iff clean.nodeId).mp checked
      cases same
      exact .fileKey bad
    · rw [same] at unbuilt
      exact (clean.fetchRequest_iff (checkFetch_eq_ok_iff.mp question).1).mp unbuilt
  · intro transport now withAssets reason refused
    refine fetch_error_iff.mpr (Client.fetch_invalid_iff.mpr ?_)
    by_cases key : IsKey manifest.source.fileKey
    · have question : IsQuestion manifest.source.fileKey [manifest.source.nodeId] := by
        refine ⟨key, List.cons_ne_nil _ _, fun id member => ?_⟩
        rw [List.mem_singleton.mp member]
        exact clean.nodeId
      exact .inr ⟨checkFetch_eq_ok_iff.mpr question, rfl, (clean.fetchRequest_iff key).mpr refused⟩
    · refine .inl ((checkFetch_eq_error_iff clean.nodeId).mpr ⟨key, ?_⟩)
      cases refused with
      | fileKey => rfl
      | address known => exact absurd known key
  · intro transport now withAssets client fetched report reason done listed failed
    obtain ⟨key, between, design, rfl⟩ := fetch_report done listed
    rcases resolveDesign_failure ⟨key, clean.scale⟩ failed with denied | ⟨fileKey, denied⟩ <;> cases denied
  · exact fun sound asked ids same => clean.exportRequest sound token ids same

def sourceText (fileKey baseUrl : String) : Manifest.SourceText :=
  ⟨"[source]\nfile_key = \"" ++ fileKey ++ "\"\nnode_id = \"0:1\"\nbase_url = \"" ++ baseUrl ++ "\"\n", "figura.toml"⟩

def sourceManifest (fileKey baseUrl : String) : Manifest where
  source := ⟨fileKey, "0:1", Manifest.defaultTokenVariable, baseUrl, defaultTimeToLive⟩
  output := .default
  assets := .default
  tokens := []
  sections := []

/-- A hyphen in the key of the file. -/
theorem fetch_refused_hyphen :
    let manifest := sourceManifest "my-key" defaultBaseUrl
    Manifest.read (sourceText "my-key" defaultBaseUrl) = .ok manifest ∧ manifest.Refused (.fileKey "my-key") ∧
      ∀ transport now withAssets, (fetch transport now manifest withAssets (.ofSettings (manifest.settings "token"))).1 =
        .error (.service (.invalid (.fileKey "my-key"))) := by
  intro manifest
  have accepted : Manifest.read (sourceText "my-key" defaultBaseUrl) = .ok manifest := by decide +kernel
  have refused : manifest.Refused (.fileKey "my-key") := .fileKey (by decide)
  exact ⟨accepted, refused, fun transport now withAssets => (fetch_refused accepted "token").2.1 transport now withAssets _ refused⟩

/-- Manifests that can be read, one with a hyphen in the key of its file and one with an address
that ends within brackets: no service is ever asked for what they name. -/
theorem accepted_and_refused :
    Manifest.read (sourceText "my-key" defaultBaseUrl) = .ok (sourceManifest "my-key" defaultBaseUrl) ∧
    Manifest.read (sourceText "k" "https://[") = .ok (sourceManifest "k" "https://[") ∧
    ∀ transport now withAssets token,
      (fetch transport now (sourceManifest "my-key" defaultBaseUrl) withAssets
        (.ofSettings ((sourceManifest "my-key" defaultBaseUrl).settings token))).1 =
        .error (.service (.invalid (.fileKey "my-key"))) ∧
      (fetch transport now (sourceManifest "k" "https://[") withAssets
        (.ofSettings ((sourceManifest "k" "https://[").settings token))).1 =
        .error (.service (.invalid (.url .eightNumbers))) := by
  have unreadable : Url.read ((sourceManifest "k" "https://[").address ++ "/" ++ ("files/" ++ "k" ++ "/nodes")) =
      .error .eightNumbers := by decide +kernel
  refine ⟨by decide +kernel, by decide +kernel, fun transport now withAssets token => ⟨?_, ?_⟩⟩
  · exact fetch_error_iff.mpr (Client.fetch_invalid_iff.mpr (.inl rfl))
  · have unbuilt : ((sourceManifest "k" "https://[").settings token).fetchRequest "k" ["0:1"] = .error (.invalid (.url .eightNumbers)) :=
      Manifest.request_eq_error_iff.mpr ⟨_, unreadable, rfl⟩
    exact fetch_error_iff.mpr (Client.fetch_invalid_iff.mpr (.inr ⟨rfl, rfl, unbuilt⟩))

end Site

end Handoff
