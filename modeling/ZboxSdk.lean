import ZboxSdk.Mask
import ZboxSdk.Requests
import ZboxSdk.World
import ZboxSdk.Upload
import ZboxSdk.Repair
import ZboxSdk.Download
import ZboxSdk.Listing
import ZboxSdk.Objects
import ZboxSdk.Api
import ZboxSdk.Progress
import ZboxSdk.Queue
import ZboxSdk.Registry
import ZboxSdk.SharedKey
import ZboxSdk.Quiescence
import ZboxSdk.Interleaving
import ZboxSdk.Refinement
