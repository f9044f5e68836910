import LibraryServer.JwtFilter

/-!
The rate limit. Every bean that is a servlet filter stands in the chain of every
request, in an order that nothing fixes, and `RateLimitFilter` is a bean twice: as
a component and through `WebConfig`. Both take permits from the same limiter, so a
request to the API costs two. The limiter is the number of permits that are left in
the present period.
-/
namespace LibraryServer.RateLimit
open LibraryServer.JwtFilter
set_option linter.unusedSimpArgs false

/-! ### The filters -/

inductive Response where
  | reached
  | refused (status : Nat) (body : String)
deriving DecidableEq

def tooManyRequests : Response := .refused 429 "⚠️ Too many requests. Try again later."

/-- What becomes of a request, and the permits that are left then. -/
abbrev Chain := HttpRequest → Nat → Response × Nat

/-- The end of the chain. -/
def application : Chain := fun _ permits => (.reached,permits)

/-- `RateLimiter.acquirePermission` within a period. -/
def acquirePermission (permits : Nat) : Bool × Nat := if 0 < permits then (true,permits - 1) else (false,permits)

/-- `RateLimitService.tryConsume`. -/
def tryConsume (permits : Nat) : Bool × Nat := acquirePermission permits

def shouldRateLimit (path : String) : Bool := "/api/".toList.isPrefixOf path.toList

def RateLimitFilter.doFilter (chain : Chain) : Chain := fun request permits =>
  if shouldRateLimit request.requestURI then
    match tryConsume permits with
    | (true,left) => chain request left
    | (false,left) => (tooManyRequests,left)
  else chain request permits

/-- The filter beans by their names. -/
inductive FilterBean where
  | rateLimitFilter
  | rateLimitingFilter
  | jwtAuthFilter
deriving DecidableEq

/-- `jwtAuthFilter` goes on with the chain in any case. -/
def FilterBean.doFilter : FilterBean → Chain → Chain
  | .rateLimitFilter, chain => RateLimitFilter.doFilter chain
  | .rateLimitingFilter, chain => RateLimitFilter.doFilter chain
  | .jwtAuthFilter, chain => chain

def filterBeans : List FilterBean := [.rateLimitFilter,.rateLimitingFilter,.jwtAuthFilter]

def chainOf (beans : List FilterBean) : Chain := beans.foldr FilterBean.doFilter application

/-- The responses to the requests of one period. -/
def responses (chain : Chain) : Nat → List HttpRequest → List Response
  | _, [] => []
  | permits, request :: rest => (chain request permits).1 :: responses chain (chain request permits).2 rest

/-! ### What a request costs -/

/-- Whether a request is to the API. -/
def isApi (request : HttpRequest) : Bool := shouldRateLimit request.requestURI

def isLimiting (bean : FilterBean) : Bool := bean != .jwtAuthFilter

/-- A request to the API costs a permit in each limiting filter; without enough of
    them it takes those that are left and is refused. -/
theorem chainOf_api {request : HttpRequest} (api : isApi request = true) (beans : List FilterBean) (permits : Nat) :
    chainOf beans request permits =
      if beans.countP isLimiting ≤ permits then (.reached,permits - beans.countP isLimiting) else (tooManyRequests,0) := by
  have limited : ∀ (chain : Chain) (n : Nat), RateLimitFilter.doFilter chain request n =
      if 0 < n then chain request (n - 1) else (tooManyRequests,n) := by
    intro chain n
    have path : shouldRateLimit request.requestURI = true := api
    by_cases left : 0 < n <;> simp [RateLimitFilter.doFilter,path,tryConsume,acquirePermission,left]
  induction beans generalizing permits with
  | nil => simp [chainOf,application]
  | cons bean rest ih =>
    have taking : isLimiting bean = true → FilterBean.doFilter bean (chainOf rest) = RateLimitFilter.doFilter (chainOf rest) := by
      cases bean <;> simp [isLimiting,FilterBean.doFilter]
    by_cases limiting : isLimiting bean = true
    · rw [show chainOf (bean :: rest) = FilterBean.doFilter bean (chainOf rest) from rfl,taking limiting,limited,
        List.countP_cons_of_pos limiting]
      by_cases left : 0 < permits
      · rw [if_pos left,ih]
        by_cases enough : rest.countP isLimiting + 1 ≤ permits
        · rw [if_pos enough,if_pos (by omega)]
          congr 1
          omega
        · rw [if_neg enough,if_neg (by omega)]
      · rw [if_neg left,if_neg (by omega)]
        congr 1
        omega
    · have passing : bean = .jwtAuthFilter := by simpa [isLimiting] using limiting
      rw [List.countP_cons_of_neg limiting,passing]
      exact ih permits

theorem chainOf_other {request : HttpRequest} (other : isApi request = false) (beans : List FilterBean) (permits : Nat) :
    chainOf beans request permits = (.reached,permits) := by
  have path : shouldRateLimit request.requestURI = false := other
  induction beans with
  | nil => rfl
  | cons bean rest ih =>
    rw [show chainOf (bean :: rest) = FilterBean.doFilter bean (chainOf rest) from rfl]
    cases bean <;> simp [FilterBean.doFilter,RateLimitFilter.doFilter,path,ih]

/-! ### A period -/

/-- The requests to the API before the `i`-th. -/
def earlier (requests : List HttpRequest) (i : Nat) : Nat := (requests.take i).countP isApi

theorem earlier_cons (request : HttpRequest) (rest : List HttpRequest) (i : Nat) :
    earlier (request :: rest) (i + 1) = earlier rest i + if isApi request then 1 else 0 := by
  rw [earlier,List.take_succ_cons,List.countP_cons]
  rfl

theorem earlier_lt {requests : List HttpRequest} {i : Nat} {request : HttpRequest} (present : requests[i]? = some request)
    (api : isApi request = true) : earlier requests i < requests.countP isApi := by
  induction requests generalizing i with
  | nil => cases present
  | cons first rest ih =>
    cases i with
    | zero =>
      cases present
      simp [earlier,api]
    | succ i =>
      rw [earlier_cons,List.countP_cons]
      have := ih (show rest[i]? = some request by simpa using present)
      omega

/-- Every number below that of all requests to the API is that of those before some
    request to the API. -/
theorem earlier_exists {requests : List HttpRequest} {n : Nat} (fewer : n < requests.countP isApi) :
    ∃ (i : Nat) (request : HttpRequest), requests[i]? = some request ∧ isApi request = true ∧ earlier requests i = n := by
  induction requests generalizing n with
  | nil => simp at fewer
  | cons first rest ih =>
    rw [List.countP_cons] at fewer
    by_cases api : isApi first = true
    · rw [if_pos api] at fewer
      cases n with
      | zero => exact ⟨0,first,rfl,api,rfl⟩
      | succ n =>
        obtain ⟨i,request,present,isRequest,before⟩ := ih (show n < rest.countP isApi by omega)
        exact ⟨i + 1,request,by simpa using present,isRequest,by rw [earlier_cons,before,if_pos api]⟩
    · rw [if_neg api] at fewer
      obtain ⟨i,request,present,isRequest,before⟩ := ih (show n < rest.countP isApi by omega)
      exact ⟨i + 1,request,by simpa using present,isRequest,by rw [earlier_cons,before,if_neg api]; rfl⟩

theorem responses_length (chain : Chain) (permits : Nat) (requests : List HttpRequest) :
    (responses chain permits requests).length = requests.length := by
  induction requests generalizing permits with
  | nil => rfl
  | cons request rest ih => rw [responses,List.length_cons,ih,List.length_cons]

/-- A request to the API is refused when the permits do not suffice for it and those
    before it. -/
theorem responses_get {beans : List FilterBean} (limiting : 0 < beans.countP isLimiting) {requests : List HttpRequest}
    (permits : Nat) {i : Nat} {request : HttpRequest} (present : requests[i]? = some request) :
    (responses (chainOf beans) permits requests)[i]? =
      some (if isApi request = true ∧ permits < beans.countP isLimiting * (earlier requests i + 1) then tooManyRequests
        else .reached) := by
  induction requests generalizing permits i with
  | nil => cases present
  | cons first rest ih =>
    cases i with
    | zero =>
      cases present
      rw [responses]
      by_cases api : isApi request = true
      · rw [chainOf_api api]
        by_cases enough : beans.countP isLimiting ≤ permits
        · simp [api,enough,earlier,Nat.not_lt.mpr enough]
        · simp [api,enough,earlier,Nat.lt_of_not_le enough]
      · rw [chainOf_other (by simpa using api)]
        simp [api]
    | succ i =>
      rw [responses,List.getElem?_cons_succ,ih _ (by simpa using present),earlier_cons]
      by_cases api : isApi first = true
      · rw [chainOf_api api,if_pos api]
        -- The first request took its permits, or all there were.
        have shifted : beans.countP isLimiting * (earlier rest i + 1 + 1) =
            beans.countP isLimiting * (earlier rest i + 1) + beans.countP isLimiting := Nat.mul_succ _ _
        have some_cost : 0 < beans.countP isLimiting * (earlier rest i + 1) := Nat.mul_pos limiting (Nat.succ_pos _)
        by_cases enough : beans.countP isLimiting ≤ permits
        · rw [if_pos enough]
          have same : permits - beans.countP isLimiting < beans.countP isLimiting * (earlier rest i + 1) ↔
              permits < beans.countP isLimiting * (earlier rest i + 1 + 1) := by omega
          simp only [same]
        · rw [if_neg enough]
          have same : 0 < beans.countP isLimiting * (earlier rest i + 1) ↔
              permits < beans.countP isLimiting * (earlier rest i + 1 + 1) := by omega
          simp only [same]
      · rw [chainOf_other (by simpa using api),if_neg api,Nat.add_zero]

/-- As many requests to the API as the limit says, the first ones, and all other
    requests reach the application; the later ones to the API are refused. -/
def OnePermitEach (limit : Nat) (requests : List HttpRequest) (answers : List Response) : Prop :=
  answers.length = requests.length ∧
    ∀ (i : Nat) (request : HttpRequest), requests[i]? = some request →
      answers[i]? = some (if isApi request = true ∧ limit ≤ earlier requests i then tooManyRequests else .reached)

/-- With both beans in the chain, in whatever order, a request costs one permit only
    as long as there are two for each request to the API, or none at all. -/
theorem one_permit_each_iff {order : List FilterBean} (perm : order.Perm filterBeans) (limit : Nat)
    (requests : List HttpRequest) :
    OnePermitEach limit requests (responses (chainOf order) limit requests) ↔
      limit = 0 ∨ 2 * requests.countP isApi ≤ limit := by
  have two : order.countP isLimiting = 2 := perm.countP_eq isLimiting
  have actual : ∀ {i : Nat} {request : HttpRequest}, requests[i]? = some request →
      (responses (chainOf order) limit requests)[i]? =
        some (if isApi request = true ∧ limit < 2 * (earlier requests i + 1) then tooManyRequests else .reached) := by
    intro i request present
    rw [responses_get (by omega) limit present,two]
  constructor
  · rintro ⟨_,claimed⟩
    by_contra exceeded
    have fewer : limit / 2 < requests.countP isApi := by omega
    -- The first request that does not get its two permits should be let through.
    obtain ⟨i,request,present,api,before⟩ := earlier_exists fewer
    have should := claimed i request present
    rw [actual present,if_pos ⟨api,by omega⟩,if_neg (fun late => by omega)] at should
    cases should
  · intro few
    refine ⟨responses_length _ _ _,?_⟩
    intro i request present
    rw [actual present]
    by_cases api : isApi request = true
    · have before := earlier_lt present api
      have same : limit < 2 * (earlier requests i + 1) ↔ limit ≤ earlier requests i := by omega
      simp only [same]
    · simp [api]

/-- A request for a path, without cookies and header. -/
def requestFor (path : String) : HttpRequest := ⟨path,none,none⟩

theorem one_permit_each_five :
    OnePermitEach 10 (List.replicate 5 (requestFor "/api/books"))
      (responses (chainOf filterBeans) 10 (List.replicate 5 (requestFor "/api/books"))) :=
  (one_permit_each_iff (List.Perm.refl _) 10 _).mpr (by decide)

/-- Ten permits, and the sixth request is refused. -/
theorem one_permit_each_sixth :
    ¬ OnePermitEach 10 (List.replicate 6 (requestFor "/api/books"))
      (responses (chainOf filterBeans) 10 (List.replicate 6 (requestFor "/api/books"))) := by
  rintro ⟨_,claimed⟩
  exact absurd (claimed 5 _ rfl) (by decide)

end LibraryServer.RateLimit
