import DnsResolver.Basic
import DnsResolver.Message
import DnsResolver.Address
import DnsResolver.Fctx
import DnsResolver.Classify
import DnsResolver.Cache
import DnsResolver.System
import DnsResolver.Lifecycle
import DnsResolver.Task
import DnsResolver.Response
import DnsResolver.Api
import DnsResolver.Run
import DnsResolver.Frame
import DnsResolver.Sharing
import DnsResolver.Bailiwick
import DnsResolver.Verdicts
import DnsResolver.Touch
import DnsResolver.Handlers
import DnsResolver.Quiet
import DnsResolver.Queries
import DnsResolver.Books
import DnsResolver.Tasks
import DnsResolver.Always
import DnsResolver.Sorting
import DnsResolver.Cursor
import DnsResolver.Lists
import DnsResolver.Fetches
import DnsResolver.Pointers
import DnsResolver.Asserts
