/-
This file settles what downloads send and what they give. Each one logs in anew, and only a login
that came through lets the link be opened; what it gives then is the page that comes back from the
link, and never a page that was there before. Over a session of downloads, whatever fails in it,
each download that gives a file has therefore sent exactly one form of its own.
-/
import Metasearch.Proofs.LoginAttempts

namespace Metasearch

/-- The request sends a form. -/
def Request.sendsForm (request : Request) : Bool :=
  match request.kind with
  | .submit _ => true
  | _ => false

namespace Indexer

open Browser (Answers sendAll)

variable {State Kind : Type} [Browser State] [Settings.Keeper Kind]

/-! ### The course of a download -/

/-- The file on the page that a browser shows. -/
def fileShown (state : State) : Except Error Download :=
  ((shownPage state).mapError .browser).map fun page => ⟨page.body, page.headers⟩

theorem fileShown_eq_ok {state : State} {file : Download} :
    fileShown state = .ok file ↔
      ∃ page, Browser.page? state = some page ∧ file = ⟨page.body, page.headers⟩ := by
  unfold fileShown shownPage
  cases Browser.page? state <;> simp [Except.mapError, Except.map, eq_comm]

/-- The requests of a download behind those of its login, and what it comes to. -/
inductive DownloadCourse (indexer : Indexer Kind) (link : String) (visit : Visit State)
    (before : List Request) : List Request → Except Error Download → Prop
  /-- The login fails. -/
  | refused (error : Error) (failed : outcomeOf (indexer.login visit) = .error error) :
      DownloadCourse indexer link visit before before (.error error)
  /-- The link leads nowhere. -/
  | unreached (error : Error) (passed : outcomeOf (indexer.login visit) = .ok ())
      (lost : indexer.addressFrom (Browser.page? (sendAll before visit.browser)) link =
        .error error) :
      DownloadCourse indexer link visit before before (.error error)
  /-- The link is not answered. -/
  | unanswered (url : Url) (error : Browser.Error)
      (passed : outcomeOf (indexer.login visit) = .ok ())
      (reached : indexer.addressFrom (Browser.page? (sendAll before visit.browser)) link = .ok url)
      (trouble : (Browser.send (.view url) (sendAll before visit.browser)).1 = some error) :
      DownloadCourse indexer link visit before (before ++ [.view url]) (.error (.browser error))
  /-- The page that comes back is the file. -/
  | fetched (url : Url) (passed : outcomeOf (indexer.login visit) = .ok ())
      (reached : indexer.addressFrom (Browser.page? (sendAll before visit.browser)) link = .ok url)
      (answered : Answers (.view url) (sendAll before visit.browser)) :
      DownloadCourse indexer link visit before (before ++ [.view url])
        (fileShown (sendAll (before ++ [.view url]) visit.browser))

theorem showFile_apply (visit : Visit State) :
    (currentPage >>= fun page => pure ⟨page.body, page.headers⟩ : Act State Download) visit =
      resultOf (fileShown visit.browser) visit := by
  rw [bind_apply, currentPage_apply, fileShown]
  cases shownPage visit.browser <;> rfl

/-- A download takes one of its courses behind the requests of its login. -/
theorem download_course (indexer : Indexer Kind) (link : String) {visit : Visit State}
    {before : List Request}
    (kept : (stateOf (indexer.login visit)).browser = sendAll before visit.browser) :
    ∃ requests, DownloadCourse indexer link visit before requests
        (outcomeOf (indexer.download link visit)) ∧
      (stateOf (indexer.download link visit)).browser = sendAll requests visit.browser := by
  have steps : indexer.download link =
      (indexer.login >>= fun _ => indexer.resolvePath link >>= fun url =>
        send (.view url) >>= fun _ => currentPage >>= fun page =>
          pure ⟨page.body, page.headers⟩ : Act State Download) := rfl
  rw [steps]
  cases done : indexer.login visit with
  | error error after =>
    rw [done] at kept
    rw [bind_of_error done]
    exact ⟨before, .refused error (congrArg outcomeOf done), kept⟩
  | ok value after =>
    have passed : outcomeOf (indexer.login visit) = .ok () := congrArg outcomeOf done
    obtain ⟨browser, metrics⟩ := after
    obtain rfl : browser = sendAll before visit.browser := by simpa [done, stateOf] using kept
    rw [bind_of_ok done]
    cases reached : indexer.addressFrom (Browser.page? (sendAll before visit.browser)) link with
    | error error =>
      rw [bind_of_error (resolvePath_of_error reached)]
      exact ⟨before, .unreached error passed reached, rfl⟩
    | ok url =>
      rw [bind_of_ok (resolvePath_of_ok reached)]
      have sent : sendAll (before ++ [.view url]) visit.browser =
          (Browser.send (.view url) (sendAll before visit.browser)).2 :=
        Browser.sendAll_append before [.view url] visit.browser
      cases viewed : (Browser.send (.view url) (sendAll before visit.browser)).1 with
      | some error =>
        rw [bind_of_error (send_of_trouble viewed)]
        exact ⟨_, .unanswered url error passed reached viewed, sent.symm⟩
      | none =>
        have answered : Answers (.view url)
            (Visit.mk (sendAll before visit.browser) metrics).browser := viewed
        rw [bind_of_ok (send_of_answers answered), ← sent, showFile_apply, outcomeOf_resultOf,
          stateOf_resultOf]
        exact ⟨_, .fetched url passed reached viewed, rfl⟩

/-! ### Sessions of downloads -/

/-- A download of a session: where it starts, with nothing on record, what it sends and what it
comes to. -/
structure Call (State : Type) where
  link : String
  start : Visit (Watched State)
  requests : List Request
  outcome : Except Error Download

/-- The download comes to a file. -/
def Call.succeeds (call : Call State) : Bool :=
  call.outcome.isOk

/-- The download of a link. -/
def callOf (indexer : Indexer Kind) (link : String) (start : Visit (Watched State)) :
    Call State :=
  let result := indexer.download link start
  ⟨link, start, (stateOf result).browser.sent, outcomeOf result⟩

/-- Downloads one after the other, each where the one before it left the browser. -/
def downloads (indexer : Indexer Kind) : List String → Visit (Watched State) → List (Call State)
  | [], _ => []
  | link :: rest, visit =>
    let start : Visit (Watched State) := ⟨⟨visit.browser.browser, []⟩, visit.metrics⟩
    indexer.callOf link start ::
      indexer.downloads rest (stateOf (indexer.download link start))

/-- What holds of each download, wherever it starts, holds of all downloads of a session. -/
theorem forall_downloads {indexer : Indexer Kind} {holds : Call State → Prop}
    (each : ∀ link start, start.browser.sent = [] → holds (indexer.callOf link start))
    (links : List String) (visit : Visit (Watched State)) :
    ∀ call ∈ indexer.downloads links visit, holds call := by
  induction links generalizing visit with
  | nil => simp [downloads]
  | cons link rest inductionHypothesis =>
    exact List.forall_mem_cons.mpr ⟨each link _ rfl, inductionHypothesis _⟩

/-- The download logs in first, and opens its link only behind a login that came through. -/
structure LogsInFirst (indexer : Indexer Kind) (login : LoginBlock) (call : Call State)
    (before : List Request) : Prop where
  /-- The login sends the requests of an attempt. -/
  attempt : Course indexer login call.start.browser before
  /-- The download sends these and nothing more, or these and one for the link. -/
  course : DownloadCourse indexer call.link call.start before call.requests call.outcome
  /-- Its requests are, in their order, those for the login page, the form and the link, up to
  some place. -/
  inOrder : ∃ opened form linked, call.requests <+: [.view opened, .ofForm form, .view linked]
  /-- The link is opened behind a login that came through. -/
  passed : ∀ url, call.requests = before ++ [.view url] →
    outcomeOf (indexer.login call.start) = .ok ()
  /-- A file is the page that the link is answered with, behind all three requests. -/
  file : ∀ file, call.outcome = .ok file → ∃ opened form linked page,
    before = [.view opened, .ofForm form] ∧ call.requests = before ++ [.view linked] ∧
      Answers (.view linked) (sendAll before call.start.browser) ∧
      Browser.page? (sendAll call.requests call.start.browser) = some page ∧
      file = ⟨page.body, page.headers⟩

theorem Course.inOrder {indexer : Indexer Kind} {login : LoginBlock} {state : State}
    {requests : List Request} (course : Course indexer login state requests) :
    ∃ opened form, requests <+: [.view opened, .ofForm form] := by
  cases course with
  | unreached => exact ⟨Filter.anyBase, ⟨Filter.anyBase, .get, []⟩, List.nil_prefix⟩
  | unfilled url => exact ⟨url, ⟨url, .get, []⟩, List.prefix_append [_] [_]⟩
  | sent url form => exact ⟨url, form, List.prefix_rfl⟩

/-- The course of a download behind that of its attempt to log in, which has sent both of its
requests if it came through. -/
theorem DownloadCourse.logsInFirst {indexer : Indexer Kind} {login : LoginBlock}
    {call : Call State} {before : List Request}
    (attempt : Course indexer login call.start.browser before)
    (both : outcomeOf (indexer.login call.start) = .ok () →
      ∃ opened form, before = [.view opened, .ofForm form])
    (course : DownloadCourse indexer call.link call.start before call.requests call.outcome) :
    LogsInFirst indexer login call before := by
  obtain ⟨link, start, requests, outcome⟩ := call
  obtain ⟨opened, form, short⟩ := attempt.inOrder
  dsimp only at attempt both course
  cases course with
  | refused error failed =>
    refine ⟨attempt, .refused error failed, ⟨opened, form, opened, ?_⟩, fun url more => ?_, ?_⟩
    · exact short.trans (List.prefix_append [_, _] [_])
    · simp at more
    · rintro _ ⟨⟩
  | unreached error passed lost =>
    refine ⟨attempt, .unreached error passed lost, ⟨opened, form, opened, ?_⟩,
      fun _ _ => passed, ?_⟩
    · exact short.trans (List.prefix_append [_, _] [_])
    · rintro _ ⟨⟩
  | unanswered url error passed reached trouble =>
    obtain ⟨opened, form, rfl⟩ := both passed
    refine ⟨attempt, .unanswered url error passed reached trouble, ⟨opened, form, url, ?_⟩,
      fun _ _ => passed, ?_⟩
    · exact List.prefix_rfl
    · rintro _ ⟨⟩
  | fetched url passed reached answered =>
    obtain ⟨opened, form, rfl⟩ := both passed
    refine ⟨attempt, .fetched url passed reached answered, ⟨opened, form, url, ?_⟩,
      fun _ _ => passed, fun file found => ?_⟩
    · exact List.prefix_rfl
    · obtain ⟨page, shown, rfl⟩ := fileShown_eq_ok.mp found
      exact ⟨opened, form, url, page, rfl, rfl, answered, shown, rfl⟩

/-- One download of a session. -/
theorem exists_logsInFirst {indexer : Indexer Kind} {login : LoginBlock}
    (wanted : indexer.definition.login = some login) (link : String)
    {start : Visit (Watched State)} (blank : start.browser.sent = []) :
    ∃ before, LogsInFirst indexer login (indexer.callOf link start) before := by
  obtain ⟨before, attempt, kept, succeeds⟩ := login_course wanted start
  obtain ⟨requests, course, behind⟩ := indexer.download_course link kept
  have recorded : (indexer.callOf link start).requests = requests := by
    rw [Watched.sendAll_eq, blank] at behind
    exact congrArg Watched.sent behind
  rw [← recorded] at course
  refine ⟨before, DownloadCourse.logsInFirst attempt (fun passed => ?_) course⟩
  obtain ⟨opened, form, -, same, -⟩ := succeeds.mp (succeeds_of_outcome passed)
  exact ⟨opened, form, same⟩

/-- A download that comes to a file has sent one form. -/
theorem LogsInFirst.countP_sendsForm {indexer : Indexer Kind} {login : LoginBlock}
    {call : Call State} {before : List Request} (follows : LogsInFirst indexer login call before)
    (succeeds : call.succeeds = true) : call.requests.countP Request.sendsForm = 1 := by
  unfold Call.succeeds at succeeds
  cases found : call.outcome with
  | error error => simp [found, Except.isOk, Except.toBool] at succeeds
  | ok file =>
    obtain ⟨opened, form, linked, page, rfl, sent, -⟩ := follows.file file found
    rw [sent]
    rfl

/-- Downloads from a site that wants a login, one after the other on one browser, whatever it
answers and whatever fails. Each logs in first, and what it gives is the page that its link was
answered with; so those of them that give a file have sent as many forms as they are. -/
theorem downloads_logInFirst {indexer : Indexer Kind} {login : LoginBlock}
    (wanted : indexer.definition.login = some login) (links : List String)
    (visit : Visit (Watched State)) :
    let calls := indexer.downloads links visit
    let successful := calls.filter Call.succeeds
    (∀ call ∈ calls, ∃ before, LogsInFirst indexer login call before) ∧
      (successful.flatMap Call.requests).countP Request.sendsForm = successful.length := by
  intro calls successful
  have each : ∀ call ∈ calls, ∃ before, LogsInFirst indexer login call before :=
    forall_downloads (fun link _ blank => exists_logsInFirst wanted link blank) links visit
  have one : ∀ call ∈ successful, call.requests.countP Request.sendsForm = 1 := by
    intro call member
    obtain ⟨among, succeeds⟩ := List.mem_filter.mp member
    obtain ⟨before, follows⟩ := each call among
    exact follows.countP_sendsForm succeeds
  have ones : successful.map (List.countP Request.sendsForm ∘ Call.requests) =
      successful.map fun _ => 1 := List.map_congr_left one
  refine ⟨each, ?_⟩
  rw [List.countP_flatMap, ones, List.map_const', List.sum_replicate, smul_eq_mul, mul_one]

/-! ### A site that wants a password -/

/-- A browser that finds the same markup at every address. -/
structure Mirror where
  markup : String
  current : Option Page

instance : Browser Mirror where
  send request mirror :=
    let page : Page := ⟨request.target, 200, [], Text.encode mirror.markup.toList⟩
    (none, { mirror with current := some page })
  page? := Mirror.current

/-- A browser that finds a form for a password everywhere, which is sent to where it is found. -/
def passwordMirror : Mirror :=
  ⟨"<form method=post><input name=password>", none⟩

/-- A site that wants a password, and the settings with the password. -/
def passwordSite : Indexer where
  definition :=
    { site := "site", name := "Site", description := "", language := "en-us"
      links := ["http://site.example/"]
      login := some
        ⟨"/login.php", "form", [("password", "\x7b\x7b .Config.password \x7d\x7d")], []⟩
      search := ⟨"/search.php", [], "li", [("title", .whole)]⟩
      capabilities := ⟨[], .empty⟩ }
  store := ⟨[("site", [("password", "secret")])], none⟩
  now := ⟨0, 0⟩

/-- A page of a host. -/
def pageOf (host path : String) : Url :=
  ⟨"http", "", "", some (.named host), none, .segments [path], none, none⟩

/-- The start of a session with `passwordMirror`. -/
def passwordStart : Visit (Watched Mirror) := ⟨⟨passwordMirror, []⟩, []⟩

/-- Two downloads log in twice. -/
theorem downloads_logInFirst_passwordSite :
    let calls := passwordSite.downloads ["first", "second"] passwordStart
    (∃ login, passwordSite.definition.login = some login ∧
      ∀ call ∈ calls, ∃ before, LogsInFirst passwordSite login call before) ∧
      calls.map Call.succeeds = [true, true] ∧
      (calls.flatMap Call.requests).countP Request.sendsForm = 2 := by
  intro calls
  have both : calls.map Call.succeeds = [true, true] := by decide +kernel
  have each : ∀ call ∈ calls, call.succeeds = true := by
    intro call member
    have among : call.succeeds ∈ calls.map Call.succeeds := List.mem_map_of_mem member
    rw [both] at among
    simpa using among
  obtain ⟨follow, count⟩ :=
    @downloads_logInFirst Mirror _ _ _ passwordSite _ rfl ["first", "second"] passwordStart
  rw [List.filter_eq_self.mpr each] at count
  refine ⟨⟨_, rfl, follow⟩, both, count.trans ?_⟩
  rw [← List.length_map Call.succeeds]
  exact congrArg List.length both

end Indexer

end Metasearch
