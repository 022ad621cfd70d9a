/-
This file settles which site the login and search pages of a session are on. Their paths are read
from the page that the browser shows, and from the address of the site only when it shows none.
So every such page is on the site of the page before it. What leads away are the requests between
them: a form that is sent elsewhere, or a download from elsewhere. As long as these stay on the
site, the whole session does; after one that does not, the next login opens its page, and fills in
its form, wherever the browser was led.
-/
import Metasearch.Proofs.Downloads
import Metasearch.Proofs.Searches
import Metasearch.Proofs.SiteAddresses

namespace Metasearch

/-! ### Browsers -/

namespace Browser

variable {State : Type} [Browser State]

/-- A browser that is not led on: however it is used from here on, an answer is shown at the
address that was asked for, and without an answer the page stays. -/
def StaysPut (state : State) : Prop :=
  ∀ requests request,
    (Answers request (sendAll requests state) →
      (page? (sendAll (requests ++ [request]) state)).map Page.url = some request.target) ∧
    (¬ Answers request (sendAll requests state) →
      page? (sendAll (requests ++ [request]) state) = page? (sendAll requests state))

theorem StaysPut.sendAll {state : State} (staysPut : StaysPut state) (requests : List Request) :
    StaysPut (sendAll requests state) := by
  intro more request
  have there := staysPut (requests ++ more) request
  rwa [List.append_assoc, sendAll_append, sendAll_append] at there

/-- The page that a browser shows, if any, is on a site. -/
def IsOn (base : Url) (state : State) : Prop :=
  ∀ page, page? state = some page → Url.SameSite base page.url

/-- Requests to a site leave a browser on the site that is not led on. -/
theorem IsOn.sendAll {base : Url} {state : State} (staysPut : StaysPut state)
    {requests : List Request} (there : ∀ request ∈ requests, Url.SameSite base request.target)
    (isOn : IsOn base state) : IsOn base (sendAll requests state) := by
  induction requests generalizing state with
  | nil => exact isOn
  | cons request rest inductionHypothesis =>
    obtain ⟨here, later⟩ := List.forall_mem_cons.mp there
    refine inductionHypothesis (staysPut.sendAll [request]) later ?_
    obtain ⟨answered, unanswered⟩ := staysPut [] request
    -- An answer is shown at the address asked for, and without one the page stays.
    intro page shown
    by_cases answers : Answers request state
    · have shownThere := answered answers
      rw [show page? (Browser.sendAll ([] ++ [request]) state) = some page from shown] at shownThere
      rw [show page.url = request.target from Option.some.inj shownThere]
      exact here
    · exact isOn page ((unanswered answers).symm.trans shown)

end Browser

theorem Request.sameSite_target (request : Request) :
    Url.SameSite request.url request.target := by
  unfold Request.target
  split
  · exact Url.sameSite_refl request.url
  · exact Url.sameSite_withPairs _ _

namespace Indexer

open Browser (StaysPut IsOn sendAll Answers)
open Url (IsPath SameSite)

/-! ### Operations and their requests -/

/-- What a session consists of. -/
inductive Operation
  | login
  | search (query : Query)
  | download (link : String)

/-- How many requests of an operation open pages at the paths of the definition: the first one of
a login, also when it is made for a download, and all of a search. -/
def ownCount (definition : Definition) (requests : List Request) : Operation → Nat
  | .login => 1
  | .search _ => requests.length
  | .download _ => if definition.login.isSome then 1 else 0

/-- The requests of an operation that open a login or search page. -/
def ownPages (definition : Definition) (operation : Operation) (requests : List Request) :
    List Request :=
  requests.take (ownCount definition requests operation)

/-- The other requests of an operation: forms that are sent and downloads. -/
def otherRequests (definition : Definition) (operation : Operation) (requests : List Request) :
    List Request :=
  requests.drop (ownCount definition requests operation)

variable {State Kind : Type} [Browser State] [Settings.Keeper Kind]

/-- Carries out an operation. -/
def perform (indexer : Indexer Kind) : Operation → Act State Unit
  | .login => indexer.login
  | .search query => do let _ ← indexer.search query
  | .download link => do let _ ← indexer.download link

/-- A request opens what a path of the definition leads to, from the page that a browser shows. -/
def OpensOwn (indexer : Indexer Kind) (state : State) (request : Request) : Prop :=
  ∃ path,
    (path = indexer.definition.search.path ∨
      ∃ login, indexer.definition.login = some login ∧ path = login.path) ∧
    indexer.addressFrom (Browser.page? state) path = .ok request.url

/-- A login sends some requests, at least one if it succeeds where the site wants one, and the
first opens the login page. -/
theorem login_requests (indexer : Indexer Kind) (visit : Visit State) :
    ∃ requests, (stateOf (indexer.login visit)).browser = sendAll requests visit.browser ∧
      (∀ request ∈ requests.take 1, indexer.OpensOwn visit.browser request) ∧
      (indexer.definition.login.isSome → Succeeds (indexer.login visit) → requests ≠ []) := by
  cases wanted : indexer.definition.login with
  | none =>
    have done : indexer.login visit = .ok () visit := by simp only [login, wanted]
    rw [done]
    exact ⟨[], rfl, by simp, by simp⟩
  | some login =>
    obtain ⟨requests, course, kept, succeeds⟩ := login_course wanted visit
    refine ⟨requests, kept, fun request member => ?_, fun _ success => ?_⟩
    · cases course with
      | unreached => cases member
      | unfilled url reached | sent url _ reached =>
        obtain rfl := List.mem_singleton.mp member
        exact ⟨login.path, .inr ⟨login, wanted, rfl⟩, reached⟩
    · obtain ⟨url, form, -, sent, -⟩ := succeeds.mp success
      rw [sent]
      exact List.cons_ne_nil _ _

/-- A search opens the search page, perhaps with parameters once more, and nothing else. -/
theorem search_requests (indexer : Indexer Kind) (query : Query) (visit : Visit State) :
    ∃ requests, (stateOf (indexer.search query visit)).browser = sendAll requests visit.browser ∧
      ∀ request ∈ requests, indexer.OpensOwn visit.browser request := by
  obtain ⟨requests, read, course, done⟩ := indexer.search_course query visit
  refine ⟨requests, by rw [done, stateOf_resultOf], fun request member => ?_⟩
  refine ⟨_, .inl rfl, ?_⟩
  cases course with
  | unreached => cases member
  | unopened url error reached | ungiven url error reached =>
    obtain rfl := List.mem_singleton.mp member
    exact reached
  | unanswered url params error reached | read url params reached =>
    rcases List.mem_pair.mp member with rfl | rfl <;> exact reached

/-- A download sends the requests of a login and then, if that succeeds, one for the link. -/
theorem download_requests (indexer : Indexer Kind) (link : String) (visit : Visit State) :
    ∃ requests,
      (stateOf (indexer.download link visit)).browser = sendAll requests visit.browser ∧
      ∀ request ∈ ownPages indexer.definition (.download link) requests,
        indexer.OpensOwn visit.browser request := by
  obtain ⟨before, kept, first, some⟩ := indexer.login_requests visit
  obtain ⟨requests, course, behind⟩ := indexer.download_course link kept
  refine ⟨requests, behind, fun request member => ?_⟩
  change request ∈ requests.take (if indexer.definition.login.isSome then 1 else 0) at member
  split at member
  · next wanted =>
    -- A login that succeeded has sent the first of all requests.
    have both : ∀ url, outcomeOf (indexer.login visit) = .ok () →
        request ∈ (before ++ [Request.view url]).take 1 → indexer.OpensOwn visit.browser request := by
      intro url passed member
      have nonempty := some wanted (succeeds_of_outcome passed)
      rw [List.take_append_of_le_length (List.length_pos_iff.mpr nonempty)] at member
      exact first request member
    generalize outcomeOf (indexer.download link visit) = outcome at course
    cases course with
    | refused | unreached => exact first request member
    | unanswered url _ passed => exact both url passed member
    | fetched url passed => exact both url passed member
  · cases member

theorem perform_requests (indexer : Indexer Kind) (operation : Operation)
    (visit : Visit State) :
    ∃ requests,
      (stateOf (indexer.perform operation visit)).browser = sendAll requests visit.browser ∧
      ∀ request ∈ ownPages indexer.definition operation requests,
        indexer.OpensOwn visit.browser request := by
  cases operation with
  | login =>
    obtain ⟨requests, kept, first, -⟩ := indexer.login_requests visit
    exact ⟨requests, kept, first⟩
  | search query =>
    obtain ⟨requests, kept, each⟩ := indexer.search_requests query visit
    refine ⟨requests, ?_, fun request member => each request (List.mem_of_mem_take member)⟩
    rw [← kept, perform, bind_apply]
    cases indexer.search query visit <;> rfl
  | download link =>
    obtain ⟨requests, kept, own⟩ := indexer.download_requests link visit
    refine ⟨requests, ?_, own⟩
    rw [← kept, perform, bind_apply]
    cases indexer.download link visit <;> rfl

/-! ### One operation of a session -/

/-- The visit behind an operation, whatever came of it; its record holds what the operation
sent. -/
def behind (indexer : Indexer Kind) (operation : Operation) (visit : Visit (Watched State)) :
    Visit (Watched State) :=
  stateOf (indexer.perform operation ⟨⟨visit.browser.browser, []⟩, visit.metrics⟩)

/-- What an operation sends leaves the browser as it is behind it, and its login and search pages
are opened from where the visit was. -/
theorem behind_requests (indexer : Indexer Kind) (operation : Operation)
    (visit : Visit (Watched State)) :
    let next := indexer.behind operation visit
    next.browser.browser = sendAll next.browser.sent visit.browser.browser ∧
      ∀ request ∈ ownPages indexer.definition operation next.browser.sent,
        indexer.OpensOwn visit.browser.browser request := by
  intro next
  let recorded : Visit (Watched State) := ⟨⟨visit.browser.browser, []⟩, visit.metrics⟩
  obtain ⟨requests, kept, own⟩ := indexer.perform_requests operation recorded
  rw [Watched.sendAll_eq, List.nil_append] at kept
  have whole : next.browser = ⟨sendAll requests visit.browser.browser, requests⟩ := kept
  rw [whole]
  exact ⟨rfl, own⟩

/-- The paths of a definition name neither a scheme nor a host. -/
structure HasPaths (definition : Definition) : Prop where
  search : IsPath definition.search.path
  login : ∀ login, definition.login = some login → IsPath login.path

/-- A login or search page is on the site of the place that it is opened from. -/
theorem OpensOwn.sameSite {indexer : Indexer Kind} (paths : HasPaths indexer.definition)
    {state : State} {request : Request} (opens : indexer.OpensOwn state request) :
    ∃ place, indexer.placeOn (Browser.page? state) = .ok place ∧
      SameSite place request.target := by
  obtain ⟨path, own, leads⟩ := opens
  have isPath : IsPath path := by
    rcases own with rfl | ⟨login, wanted, rfl⟩
    · exact paths.search
    · exact paths.login login wanted
  obtain ⟨place, placed, joined⟩ := except_of_bind leads
  exact ⟨place, placed,
    (Url.join_sameSite isPath (mapError_eq_ok.mp joined)).trans request.sameSite_target⟩

/-- A login or search page is on the site if the browser is. -/
theorem OpensOwn.onSite {indexer : Indexer Kind} (paths : HasPaths indexer.definition)
    {base : Url} (starts : indexer.startUrl = .ok base) {state : State} (isOn : IsOn base state)
    {request : Request} (opens : indexer.OpensOwn state request) :
    SameSite base request.target := by
  obtain ⟨place, placed, same⟩ := opens.sameSite paths
  refine SameSite.trans ?_ same
  cases shown : Browser.page? state with
  | some page =>
    rw [shown] at placed
    obtain rfl := Except.ok.inj placed
    exact isOn page shown
  | none =>
    rw [shown] at placed
    rw [Except.ok.inj (starts.symm.trans placed)]
    exact Url.sameSite_refl place

/-! ### Whole sessions -/

/-- The visit behind the operations of a session, whatever came of them. -/
def session (indexer : Indexer Kind) (operations : List Operation)
    (visit : Visit (Watched State)) : Visit (Watched State) :=
  operations.foldl (fun visit operation => indexer.behind operation visit) visit

/-- The requests of a session but for its login and search pages. -/
def othersIn (indexer : Indexer Kind) : List Operation → Visit (Watched State) → List Request
  | [], _ => []
  | operation :: rest, visit =>
    let next := indexer.behind operation visit
    otherRequests indexer.definition operation next.browser.sent ++ othersIn indexer rest next

/-- One operation, and by induction a whole session: while forms and downloads stay on the site,
so does the browser. -/
theorem session_onSite {indexer : Indexer Kind} (paths : HasPaths indexer.definition)
    {base : Url} (starts : indexer.startUrl = .ok base) (operations : List Operation)
    {visit : Visit (Watched State)} (staysPut : StaysPut visit.browser.browser)
    (isOn : IsOn base visit.browser.browser)
    (others : ∀ request ∈ indexer.othersIn operations visit, SameSite base request.target) :
    IsOn base (indexer.session operations visit).browser.browser := by
  induction operations generalizing visit with
  | nil => exact isOn
  | cons operation rest inductionHypothesis =>
    obtain ⟨here, later⟩ := List.forall_mem_append.mp others
    obtain ⟨kept, own⟩ := indexer.behind_requests operation visit
    -- Its own pages are on the site because the browser is, the others because they are said to.
    have sentThere : ∀ request ∈ (indexer.behind operation visit).browser.sent,
        SameSite base request.target := by
      intro request member
      rw [← List.take_append_drop (ownCount indexer.definition _ operation)
        (indexer.behind operation visit).browser.sent] at member
      rcases List.mem_append.mp member with member | member
      · exact (own request member).onSite paths starts isOn
      · exact here request member
    refine inductionHypothesis ?_ ?_ later
    · rw [kept]
      exact staysPut.sendAll _
    · rw [kept]
      exact isOn.sendAll staysPut sentThere

/-- The login and search pages of an operation behind others, in a session that starts with no
page. They are on the site of the place where the operation starts, that is of the page that the
browser shows then, or of the address of the site if it shows none. And they are on the site of
that address, as long as no form was sent elsewhere before and nothing was downloaded from
elsewhere. -/
theorem ownPages_sameSite (indexer : Indexer Kind) (paths : HasPaths indexer.definition)
    {start : Visit (Watched State)} (staysPut : StaysPut start.browser.browser)
    (blank : Browser.page? start.browser = none) (earlier : List Operation)
    (operation : Operation) :
    let before := indexer.session earlier start
    let sent := (indexer.behind operation before).browser.sent
    ∀ request ∈ ownPages indexer.definition operation sent,
      (∃ place, indexer.placeOn (Browser.page? before.browser) = .ok place ∧
        SameSite place request.target) ∧
      ∀ base, indexer.startUrl = .ok base →
        (∀ other ∈ indexer.othersIn earlier start, SameSite base other.target) →
        SameSite base request.target := by
  intro before sent request member
  have opens := (indexer.behind_requests operation before).2 request member
  refine ⟨opens.sameSite paths, fun base starts others => opens.onSite paths starts ?_⟩
  refine session_onSite paths starts earlier staysPut (fun page shown => ?_) others
  rw [show Browser.page? start.browser = some page from shown] at blank
  cases blank

/-! ### A session that is led away -/

theorem staysPut_mirror (mirror : Mirror) : StaysPut mirror := by
  intro requests request
  refine ⟨fun _ => ?_, fun unanswered => absurd rfl unanswered⟩
  rw [Browser.sendAll_append]
  rfl

/-- Sends the password to a host. -/
def passwordSent (host : String) : Request :=
  ⟨.submit .post, pageOf host "login.php", [("password", "secret")]⟩

theorem hasPaths_passwordSite : HasPaths passwordSite.definition :=
  ⟨by decide, fun login wanted => by cases wanted; decide⟩

theorem startUrl_passwordSite :
    passwordSite.startUrl = .ok (pageOf "site.example" "") := by
  have told : Settings.Keeper.get passwordSite.store "site" "url" = .ok none := by decide +kernel
  have linked : passwordSite.definition.baseUrl = .ok (pageOf "site.example" "") := by
    decide +kernel
  rw [startUrl, linked, show passwordSite.definition.site = "site" from rfl, told]
  rfl

theorem ownPages_sameSite_passwordSite :
    HasPaths passwordSite.definition ∧ StaysPut passwordStart.browser.browser ∧
      Browser.page? passwordStart.browser = none ∧
      ∀ request ∈ ownPages passwordSite.definition .login (passwordSite.behind .login
          (passwordSite.session [.search (.ofMode "search")] passwordStart)).browser.sent,
        SameSite (pageOf "site.example" "") request.target := by
  -- A search sends nothing but its own pages.
  have others : passwordSite.othersIn [.search (.ofMode "search")] passwordStart = [] := by
    simp only [othersIn, otherRequests, ownCount, List.drop_length, List.append_nil]
  have staysPut : StaysPut passwordStart.browser.browser := staysPut_mirror _
  have pages := ownPages_sameSite passwordSite hasPaths_passwordSite staysPut rfl
    [.search (.ofMode "search")] .login
  refine ⟨hasPaths_passwordSite, staysPut, rfl, fun request member => ?_⟩
  refine (pages request member).2 _ startUrl_passwordSite fun other among => ?_
  rw [others] at among
  cases among

/-- After a download from elsewhere the login page is opened there, and the password is sent
there. And in a file's address, a path that names a drive leaves the host. -/
theorem session_leaves_site :
    HasPaths passwordSite.definition ∧ StaysPut passwordStart.browser.browser ∧
      Browser.page? passwordStart.browser = none ∧
      passwordSite.startUrl = .ok (pageOf "site.example" "") ∧
      (passwordSite.behind .login (passwordSite.session
          [.download "http://other.example/file"] passwordStart)).browser.sent =
        [.view (pageOf "other.example" "login.php"), passwordSent "other.example"] ∧
      ¬ SameSite (pageOf "site.example" "") (pageOf "other.example" "login.php") ∧
      IsPath "c|/login.php" ∧
      Url.join ⟨"file", "", "", some (.named "server"), none, .segments [""], none, none⟩
          "c|/login.php" =
        .ok ⟨"file", "", "", some .empty, none, .segments ["c:", "login.php"], none, none⟩ :=
  ⟨hasPaths_passwordSite, staysPut_mirror _, rfl, startUrl_passwordSite, by decide +kernel,
    by decide, by decide, rfl⟩

end Indexer

end Metasearch
