import McpAuthflow.RateLimiting.Refinement
import McpAuthflow.Storage.MemoryRefinement
import McpAuthflow.Storage.BackendEquivalence
import McpAuthflow.Storage.PostgresConcurrency
import McpAuthflow.Registration.AllOrNothing
import McpAuthflow.Registration.RedirectUris
import McpAuthflow.Registration.MalformedBodies
import McpAuthflow.Registration.Consistency
import McpAuthflow.Registration.RedirectPolicy
import McpAuthflow.ClientAuth.Acceptance
import McpAuthflow.ClientAuth.MemoryReplay
import McpAuthflow.ClientAuth.RedisReplay
import McpAuthflow.RateLimiting.Concurrency
import McpAuthflow.RateLimiting.Eviction
import McpAuthflow.ClientAuth.Recording
import McpAuthflow.ClientAuth.CacheBounds
import McpAuthflow.ClientAuth.Interference
import McpAuthflow.Device.Approval
import McpAuthflow.Storage.Removal
import McpAuthflow.Foundations.Urlparse
import McpAuthflow.RateLimiting.RetryAfter
import McpAuthflow.RateLimiting.RetryAgreement
import McpAuthflow.Storage.RoundTrip
import McpAuthflow.Storage.Initialization
import McpAuthflow.ClientAuth.ErrorHandling
import McpAuthflow.ClientAuth.KeySearch
import McpAuthflow.Device.UserCode
import McpAuthflow.Foundations.Utf8Replace
import McpAuthflow.Foundations.UrlEncoded
import McpAuthflow.Device.VerificationUri
import McpAuthflow.Pkce
import McpAuthflow.RateLimiting.ClockSkew
import McpAuthflow.RateLimiting.SharedStore
import McpAuthflow.Registration.Endpoint
import McpAuthflow.Storage.Linearizability
import McpAuthflow.Storage.Provenance
import McpAuthflow.Foundations.Threads
import McpAuthflow.ClientAuth.Threads
import McpAuthflow.ClientAuth.AtomicChecks
import McpAuthflow.Foundations.JsonReader
import McpAuthflow.Registration.Answers
import McpAuthflow.Foundations.Heap
import McpAuthflow.Storage.Aliasing
import McpAuthflow.Cors
import McpAuthflow.Foundations.Programs
import McpAuthflow.Storage.Statements
import McpAuthflow.Storage.Disclosure
import McpAuthflow.Storage.Atomicity
import McpAuthflow.RateLimiting.RedisBounds
import McpAuthflow.ClientAuth.RedisBounds
import McpAuthflow.ClientAuth.Linearizability
import McpAuthflow.Device.Guessing
