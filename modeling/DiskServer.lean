import DiskServer.Proof.Admin.AvailableSpace
import DiskServer.Proof.Admin.ListUsers
import DiskServer.Proof.Auth.AccountSystem
import DiskServer.Proof.Auth.ExpiryCache
import DiskServer.Proof.Auth.TokenSessions
import DiskServer.Proof.Clients.ChunkUpload
import DiskServer.Proof.Clients.DesktopTransfers
import DiskServer.Proof.Clients.DownloadContent
import DiskServer.Proof.Clients.DriveSelection
import DiskServer.Proof.Clients.DriveView
import DiskServer.Proof.Clients.ErrorEnvelope
import DiskServer.Proof.Clients.OwnerRequests
import DiskServer.Proof.Clients.SessionRuns
import DiskServer.Proof.Clients.WebDownload
import DiskServer.Proof.Download.DownloadResponder
import DiskServer.Proof.Drive.ContentLocks
import DiskServer.Proof.Drive.CopyAccounts
import DiskServer.Proof.Drive.FolderForest
import DiskServer.Proof.Drive.FolderTreeDepth
import DiskServer.Proof.Drive.GcGate
import DiskServer.Proof.Drive.ObjectReconciliation
import DiskServer.Proof.Drive.RestoreNames
import DiskServer.Proof.Drive.RestoredTree
import DiskServer.Proof.Drive.UploadInit
import DiskServer.Proof.Drive.UserService
import DiskServer.Proof.Files.FileListCache
import DiskServer.Proof.Files.ListPages
import DiskServer.Proof.Jobs.MultipartRecovery
import DiskServer.Proof.Jobs.RetryDelay
import DiskServer.Proof.Jobs.StorageJobQueue
import DiskServer.Proof.Runtime.DrainProtocols
import DiskServer.Proof.Shares.ShareAccess
import DiskServer.Proof.Shares.ShareScope
import DiskServer.Proof.Shares.TrashCallbacks
import DiskServer.Proof.Storage.S3ObjectStorage
import DiskServer.Proof.Upload.ChunkService
import DiskServer.Proof.Utils.S3Endpoint
import DiskServer.Proof.Utils.TrustedProxies
